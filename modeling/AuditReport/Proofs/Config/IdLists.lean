import AuditReport.Proofs.Config.CanonicalId
import AuditReport.Proofs.Config.TagSpelling

/-!
# Lists of rule ids

An id is told by what follows its tag: it makes no difference how the tag is spelled and what blanks are
around it, and without a tag the id is the same. The ids of a list are canonical, so they are found again
when they are listed again, and when they are written in one text with commas between them.
-/
namespace AuditReport.RuleId

structure Canonicalizes (normalize : List Char → List Char) (listed : Json → List String) : Prop where
  normalize_again : ∀ s, normalize (normalize s) = normalize s
  normalize_tagged : ∀ s before word after, (∀ c ∈ before, Text.isBlank c = true) →
    Text.upperCase word = tag → (∀ c ∈ after, Text.isBlank c = true) →
    ¬ tag <+: Text.upperCase (Text.trim s) →
    normalize (before ++ word ++ after ++ s) = normalize s
  listed_again : ∀ v, listed (.ofTexts (listed v)) = listed v
  tagged : ∀ v, ∀ id ∈ listed v, tag <+: id.toList
  listed_joined : ∀ s, listed (.str (",".intercalate (listed (.str s)))) = listed (.str s)

theorem normalize_normalize (s : List Char) : normalize (normalize s) = normalize s :=
  normalize_eq_self_iff.mpr (isCanonical_normalize s)

/-- No blank is part of a spelling of the tag, so only the blanks behind it are lost. -/
theorem SpellsTag.exists_trim_append {word : List Char} {a b c : Char} (h : SpellsTag word a b c [])
    (s : List Char) : ∃ v, Text.trim (word ++ s) = word ++ v ∧ Text.trim v = Text.trim s := by
  have hfirst : ∀ d ∈ casesOf 'S', Text.isBlank d = false := List.all_iff_forall_prop.mp (by decide)
  apply Text.exists_trimOf_append
  · rw [h.eq]
    exact List.cons_ne_nil _ _
  · rw [h.eq]
    rintro d ⟨⟩
    exact hfirst _ h.first
  · rw [h.eq]
    rintro d ⟨⟩
    exact (by decide : Text.isBlank '-' = false)

theorem normalize_of_tagged {s before word after : List Char}
    (hbefore : ∀ c ∈ before, Text.isBlank c = true) (hword : Text.upperCase word = tag)
    (hafter : ∀ c ∈ after, Text.isBlank c = true) (hs : ¬ tag <+: Text.upperCase (Text.trim s)) :
    normalize (before ++ word ++ after ++ s) = normalize s := by
  obtain ⟨a, b, c, hspells⟩ := exists_spellsTag hword
  obtain ⟨v, hv, hrest⟩ := hspells.exists_trim_append (after ++ s)
  have htrim : Text.trim (before ++ word ++ after ++ s) = word ++ v := by
    rw [List.append_assoc, List.append_assoc, Text.trim, Text.trimOf_append_left hbefore]
    exact hv
  have htag : hasTag (word ++ v) = true := by
    rw [hasTag_iff_spellsTag]
    exact ⟨a, b, c, v, by rw [hspells.eq]; rfl, hspells.first, hspells.second, hspells.third⟩
  have hdrop : (word ++ v).drop 4 = v := by
    rw [hspells.eq]
    rfl
  have hafter : Text.trim (after ++ s) = Text.trim s := Text.trimOf_append_left hafter
  rw [← hasTag_iff] at hs
  simp only [normalize, htrim, htag, if_true, hdrop, hrest, hafter, hs, if_false, Bool.false_eq_true]

section Lists

variable {ids : List String}

/-- Canonical ids are neither left out nor changed. -/
theorem listOfJson_of_items {v : Json} (hv : items v = ids.map Json.str)
    (h : ∀ id ∈ ids, IsCanonical id.toList) : listOfJson v = ids := by
  have hkept : ((ids.map Json.str).filter fun i => !isBlankItem i) = ids.map Json.str := by
    apply List.filter_eq_self.mpr
    intro i hi
    obtain ⟨id, hid, rfl⟩ := List.mem_map.mp hi
    rw [isBlankItem_of_isCanonical (h id hid)]
    rfl
  have hsame : ∀ id ∈ ids, (ofJson ∘ Json.str) id = id := by
    intro id hid
    rw [Function.comp_apply, ofJson, Json.shown, normalize_eq_self_iff.mpr (h id hid),
      String.ofList_toList]
  rw [listOfJson, hv, hkept, List.map_map, List.map_congr_left hsame]
  exact List.map_id ids

theorem listOfJson_ofTexts (h : ∀ id ∈ ids, IsCanonical id.toList) : listOfJson (.ofTexts ids) = ids :=
  listOfJson_of_items rfl h

theorem IsCanonical.ne_nil {id : List Char} (h : IsCanonical id) : id ≠ [] := by
  obtain ⟨name, rfl, _⟩ := h
  exact List.cons_ne_nil _ _

theorem items_intercalate (hcanonical : ∀ id ∈ ids, IsCanonical id.toList)
    (hcomma : ∀ id ∈ ids, ',' ∉ id.toList) : items (.str (",".intercalate ids)) = ids.map Json.str := by
  cases ids with
  | nil => rfl
  | cons id rest =>
    have hpieces : Text.pieces ',' (",".intercalate (id :: rest)).toList =
        (id :: rest).map String.toList := by
      rw [String.toList_intercalate]
      change Text.pieces ',' ([','].intercalate _) = _
      rw [← Text.joinWith_eq_intercalate]
      refine Text.pieces_joinWith (List.map_eq_nil_iff.not.mpr (List.cons_ne_nil _ _)) fun p hp => ?_
      obtain ⟨other, hother, rfl⟩ := List.mem_map.mp hp
      exact hcomma other hother
    have hne : ",".intercalate (id :: rest) ≠ "" := by
      intro hempty
      rw [hempty] at hpieces
      have hid : id.toList = [] := (List.cons.inj hpieces).1.symm
      exact (hcanonical id List.mem_cons_self).ne_nil hid
    rw [items, if_neg hne, hpieces, List.map_map]
    apply List.map_congr_left
    intro id _
    rw [Function.comp_apply, String.ofList_toList]

theorem mem_of_mem_normalize {s : List Char} {c : Char} (h : c ∈ normalize s) : c ∈ tag ∨ c ∈ s := by
  have htrim : ∀ {t : List Char}, c ∈ Text.trim t → c ∈ t := by
    intro t hc
    obtain ⟨pre, post, ht, _⟩ := Text.exists_trimOf Text.isBlank t
    rw [ht]
    exact List.mem_append_left post (List.mem_append_right pre hc)
  simp only [normalize] at h
  split at h
  · rcases List.mem_append.mp h with h | h
    · exact Or.inl h
    · exact Or.inr (htrim (List.mem_of_mem_drop (htrim h)))
  · exact (List.mem_append.mp h).imp_right htrim

/-- No id of a text has a comma, since the commas part its items. -/
theorem comma_not_mem_of_mem_listOfJson {s id : String} (h : id ∈ listOfJson (.str s)) :
    ',' ∉ id.toList := by
  obtain ⟨i, hi, _, rfl⟩ := mem_listOfJson_iff.mp h
  rw [items] at hi
  split at hi
  · cases hi
  · obtain ⟨piece, hpiece, rfl⟩ := List.mem_map.mp hi
    rw [ofJson, Json.shown, String.toList_ofList, String.toList_ofList]
    intro hc
    rcases mem_of_mem_normalize hc with hc | hc
    · exact absurd hc (by decide)
    · exact Text.not_mem_of_mem_pieces hpiece hc

end Lists

/-- Every id is brought to one form, however the tag is spelled and the list is written. -/
theorem canonicalizes : Canonicalizes normalize listOfJson where
  normalize_again := normalize_normalize
  normalize_tagged _ _ _ _ := normalize_of_tagged
  listed_again _ := listOfJson_ofTexts fun _ => isCanonical_of_mem_listOfJson
  tagged v id hid := by
    obtain ⟨name, hname, _⟩ := isCanonical_of_mem_listOfJson hid
    rw [hname]
    exact List.prefix_append _ _
  listed_joined s := by
    have hcanonical : ∀ id ∈ listOfJson (.str s), IsCanonical id.toList :=
      fun _ => isCanonical_of_mem_listOfJson
    exact listOfJson_of_items (items_intercalate hcanonical fun _ => comma_not_mem_of_mem_listOfJson)
      hcanonical

end AuditReport.RuleId
