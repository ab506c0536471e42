import AuditReport.Config.RuleId
import AuditReport.Text.UpperCase
import Mathlib.Data.Bool.AllAny
import Mathlib.Tactic.SplitIfs

/-!
# Spellings of the tag

A text has the tag if it begins with the tag once it is in capitals. Only a few letters become an S, W or C,
each of them by itself. The others whose capitals begin with one of these do not go on as the tag does, so
the tag is always spelled with four characters.
-/
namespace AuditReport

namespace Text

def OnlyFrom (k : Char) (codes : List Nat) : Prop :=
  (∀ e ∈ spreadLetters, (e.2.map Char.ofNat).head? = some k → e.1 ∈ codes) ∧
    ∀ r ∈ smallRuns, (r.1 : Int) ≤ k.toNat - r.2.2.2 → k.toNat - r.2.2.2 ≤ (r.2.1 : Int) →
      (k.toNat - r.2.2.2).toNat ∈ codes

instance (k : Char) (codes : List Nat) : Decidable (OnlyFrom k codes) :=
  inferInstanceAs (Decidable (_ ∧ _))

theorem eq_toNat_of_ofNat_eq {n : Nat} {k : Char} (h : Char.ofNat n = k) (hk : k.toNat ≠ 0) :
    n = k.toNat := by
  by_cases hn : n.isValidChar
  · rw [← h, Char.ofNat, dif_pos hn]
    rfl
  · rw [← h, Char.ofNat, dif_neg hn] at hk
    exact absurd rfl hk

theorem toNat_mem_of_head?_capital {k c : Char} {codes : List Nat} (hcodes : OnlyFrom k codes)
    (hk : k.toNat ≠ 0) (hself : k.toNat ∈ codes) (h : (capital c).head? = some k) : c.toNat ∈ codes := by
  unfold capital at h
  dsimp only at h
  split at h
  · rename_i n spread hfind
    have hn := List.find?_some hfind
    rw [← beq_iff_eq.mp hn]
    exact hcodes.1 _ (List.mem_of_find?_eq_some hfind) h
  · split at h
    · rename_i a b step distance hfind
      have hrun := List.find?_some hfind
      simp only [Bool.and_eq_true, decide_eq_true_iff] at hrun
      have hcode := eq_toNat_of_ofNat_eq (Option.some.inj h) hk
      have hmem := hcodes.2 _ (List.mem_of_find?_eq_some hfind)
      dsimp only at hmem
      have hc : (k.toNat - distance).toNat = c.toNat := by omega
      rw [← hc]
      exact hmem (by omega) (by omega)
    · cases h
      exact hself

theorem capital_ne_nil (c : Char) : capital c ≠ [] := by
  have hspread : ∀ e ∈ spreadLetters, e.2 ≠ [] := by decide
  unfold capital
  dsimp only
  split
  · rename_i hfind
    exact fun h => hspread _ (List.mem_of_find?_eq_some hfind) (List.map_eq_nil_iff.mp h)
  · split
    · exact List.cons_ne_nil _ _
    · exact List.cons_ne_nil _ _

end Text

namespace RuleId

open Text (capital upperCase)

/-- The characters that are a letter of the tag, or its dash, in capitals. -/
def casesOf : Char → List Char
  | 'S' => ['S', 's', 'ſ']
  | 'W' => ['W', 'w']
  | 'C' => ['C', 'c']
  | k => [k]

def sourcesOf : Char → List Nat
  | 'S' => [0x53, 0x73, 0x17F, 0xDF, 0xFB05, 0xFB06]
  | 'W' => [0x57, 0x77, 0x1E98]
  | 'C' => [0x43, 0x63]
  | k => [k.toNat]

theorem eq_or_of_toUpper_eq {k c : Char} (h : c.toUpper = k) : c = k ∨ c.toNat = k.toNat + 32 := by
  unfold Char.toUpper at h
  split at h
  · rename_i hsmall
    right
    obtain ⟨hlow, hhigh⟩ := hsmall
    have hlow : 97 ≤ c.val.toNat := UInt32.le_iff_toNat_le.mp hlow
    have hhigh : c.val.toNat ≤ 122 := UInt32.le_iff_toNat_le.mp hhigh
    rw [← h]
    change c.val.toNat = (c.val + 4294967264).toNat + 32
    rw [UInt32.toNat_add]
    change c.val.toNat = (c.val.toNat + 4294967264) % 4294967296 + 32
    omega
  · exact Or.inl h

theorem isCaseOf_iff {k c : Char} (hk : k ∈ ['S', 'W', 'C']) : isCaseOf k c = true ↔ c ∈ casesOf k := by
  constructor
  · intro h
    have hcode : c ∈ [k, Char.ofNat (k.toNat + 32)] ∨ k = 'S' ∧ c = Char.ofNat 0x17F := by
      simp only [isCaseOf, Bool.or_eq_true, Bool.and_eq_true, beq_iff_eq] at h
      rcases h with (h | h) | ⟨hk, h⟩
      · exact Or.inl (h ▸ List.mem_cons_self)
      · rcases eq_or_of_toUpper_eq h with h | h
        · exact Or.inl (h ▸ List.mem_cons_self)
        · rw [← h, Char.ofNat_toNat]
          exact Or.inl (List.mem_cons_of_mem _ (List.mem_singleton_self c))
      · rw [← h, Char.ofNat_toNat]
        exact Or.inr ⟨hk, rfl⟩
    have hall : ∀ k ∈ ['S', 'W', 'C'], [k, Char.ofNat (k.toNat + 32)] ⊆ casesOf k :=
      List.all_iff_forall_prop.mp (by decide)
    rcases hcode with hc | ⟨rfl, rfl⟩
    · exact hall k hk hc
    · decide
  · intro h
    have hall : ∀ k ∈ ['S', 'W', 'C'], (casesOf k).all (isCaseOf k) = true :=
      List.all_iff_forall_prop.mp (by decide)
    exact List.all_eq_true.mp (hall k hk) c h

theorem capital_of_mem_casesOf {k c : Char} (hk : k ∈ tag) (hc : c ∈ casesOf k) : capital c = [k] := by
  have hall : ∀ k ∈ tag, ((casesOf k).all fun c => capital c = [k]) = true :=
    List.all_iff_forall_prop.mp (by decide +kernel)
  exact List.all_iff_forall_prop.mp (hall k hk) c hc

/-- Where more than one character begins with a letter of the tag, no other part of the tag is next. -/
theorem mem_casesOf_or {k c : Char} (hk : k ∈ tag) (h : (capital c).head? = some k) :
    c ∈ casesOf k ∨ k ≠ '-' ∧ ∃ d es, d ∉ tag.tail ∧ capital c = k :: d :: es := by
  have honly : ∀ k ∈ tag, Text.OnlyFrom k (sourcesOf k) :=
    List.all_iff_forall_prop.mp (by decide +kernel)
  have hspread : ∀ k ∈ tag, ∀ n ∈ sourcesOf k, Char.ofNat n ∈ casesOf k ∨
      k ≠ '-' ∧ ((capital (Char.ofNat n))[1]?.any fun d => d ∉ tag.tail) = true :=
    List.all_iff_forall_prop.mp (by decide +kernel)
  have hself : ∀ k ∈ tag, k.toNat ≠ 0 ∧ k.toNat ∈ sourcesOf k :=
    List.all_iff_forall_prop.mp (by decide)
  have hmem := Text.toNat_mem_of_head?_capital (honly k hk) (hself k hk).1 (hself k hk).2 h
  have hc := hspread k hk c.toNat hmem
  rw [Char.ofNat_toNat] at hc
  refine hc.imp_right fun ⟨hdash, hnext⟩ => ⟨hdash, ?_⟩
  obtain ⟨d, hd, hout⟩ := (Option.any_eq_true _ _).mp hnext
  obtain ⟨e, ks, hks⟩ := List.exists_cons_of_ne_nil (Text.capital_ne_nil c)
  rw [hks] at h hd ⊢
  cases h
  obtain ⟨es, rfl⟩ : ∃ es, ks = d :: es := by
    cases ks with
    | nil => cases hd
    | cons f es =>
      cases hd
      exact ⟨es, rfl⟩
  exact ⟨d, es, of_decide_eq_true hout, rfl⟩

/-- One character of the tag is spelled with one character. -/
theorem exists_case_of_isPrefix {k : Char} {t s : List Char} (h : k :: t <+: upperCase s)
    (hk : k ∈ tag) (ht : k = '-' ∨ ∃ d r, d ∈ tag.tail ∧ t = d :: r) :
    ∃ c r, s = c :: r ∧ c ∈ casesOf k ∧ t <+: upperCase r := by
  cases s with
  | nil => cases List.prefix_nil.mp h
  | cons c r =>
    obtain ⟨e, ks, hc⟩ := List.exists_cons_of_ne_nil (Text.capital_ne_nil c)
    rw [upperCase, List.flatMap_cons, hc, List.cons_append, List.cons_prefix_cons] at h
    obtain ⟨rfl, h⟩ := h
    have hhead : (capital c).head? = some k := by rw [hc, List.head?_cons]
    rcases mem_casesOf_or hk hhead with hcase | ⟨hdash, e, es, he, hspread⟩
    · cases hc.symm.trans (capital_of_mem_casesOf hk hcase)
      exact ⟨c, r, rfl, hcase, h⟩
    · obtain ⟨d, t, hd, rfl⟩ := ht.resolve_left hdash
      cases hc.symm.trans hspread
      have hde : d = e := (List.cons_prefix_cons.mp h).1
      exact absurd (hde ▸ hd) he

structure SpellsTag (s : List Char) (a b c : Char) (r : List Char) : Prop where
  eq : s = a :: b :: c :: '-' :: r
  first : a ∈ casesOf 'S'
  second : b ∈ casesOf 'W'
  third : c ∈ casesOf 'C'

theorem hasTag_iff_spellsTag {s : List Char} : hasTag s = true ↔ ∃ a b c r, SpellsTag s a b c r := by
  constructor
  · intro h
    unfold hasTag at h
    split at h
    · rename_i a b c d r
      simp only [Bool.and_eq_true, beq_iff_eq] at h
      obtain ⟨⟨⟨ha, hb⟩, hc⟩, rfl⟩ := h
      exact ⟨a, b, c, r, rfl, (isCaseOf_iff (by decide)).mp ha, (isCaseOf_iff (by decide)).mp hb,
        (isCaseOf_iff (by decide)).mp hc⟩
    · cases h
  · rintro ⟨a, b, c, r, rfl, ha, hb, hc⟩
    rw [← isCaseOf_iff (by decide)] at ha hb hc
    simp only [hasTag, ha, hb, hc, Bool.true_and, beq_self_eq_true]

theorem SpellsTag.upperCase_eq {s r : List Char} {a b c : Char} (h : SpellsTag s a b c r) :
    upperCase s = tag ++ upperCase r := by
  have hdash : capital '-' = ['-'] := capital_of_mem_casesOf (by decide) (by decide)
  rw [h.eq]
  simp only [upperCase, List.flatMap_cons, hdash,
    capital_of_mem_casesOf (k := 'S') (by decide) h.first,
    capital_of_mem_casesOf (k := 'W') (by decide) h.second,
    capital_of_mem_casesOf (k := 'C') (by decide) h.third]
  rfl

/-- A text has the tag if it begins with it in capitals. -/
theorem hasTag_iff {s : List Char} : hasTag s = true ↔ tag <+: upperCase s := by
  rw [hasTag_iff_spellsTag]
  constructor
  · rintro ⟨a, b, c, r, h⟩
    rw [h.upperCase_eq]
    exact List.prefix_append _ _
  · intro h
    obtain ⟨a, r, rfl, ha, h⟩ := exists_case_of_isPrefix h (by decide) (.inr ⟨'W', _, by decide, rfl⟩)
    obtain ⟨b, r, rfl, hb, h⟩ := exists_case_of_isPrefix h (by decide) (.inr ⟨'C', _, by decide, rfl⟩)
    obtain ⟨c, r, rfl, hc, h⟩ := exists_case_of_isPrefix h (by decide) (.inr ⟨'-', _, by decide, rfl⟩)
    obtain ⟨d, r, rfl, hd, -⟩ := exists_case_of_isPrefix h (by decide) (.inl rfl)
    rw [List.mem_singleton.mp hd]
    exact ⟨a, b, c, r, rfl, ha, hb, hc⟩

/-- A text that is the tag in capitals is a spelling of the tag and nothing else. -/
theorem exists_spellsTag {word : List Char} (h : upperCase word = tag) :
    ∃ a b c, SpellsTag word a b c [] := by
  have hprefix : tag <+: upperCase word := h ▸ List.prefix_rfl
  obtain ⟨a, b, c, r, hspells⟩ := hasTag_iff_spellsTag.mp (hasTag_iff.mpr hprefix)
  have hrest : upperCase r = [] := List.append_right_eq_self.mp (hspells.upperCase_eq.symm.trans h)
  cases r with
  | nil => exact ⟨a, b, c, hspells⟩
  | cons d r => exact absurd (List.append_eq_nil_iff.mp hrest).1 (Text.capital_ne_nil d)

end RuleId
end AuditReport
