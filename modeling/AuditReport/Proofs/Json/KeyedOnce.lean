import AuditReport.Json.Reader
import Mathlib.Data.List.Nodup
import Mathlib.Tactic.SplitIfs

/-!
# Keys of documents

In a document that is read, no object has a key twice: of entries with one key the last one counts.
-/
namespace AuditReport

namespace Table

variable {α : Type}

theorem mem_put {key : String} {a : α} {t : Table α} {e : String × α} (h : e ∈ put key a t) :
    e = (key, a) ∨ e ∈ t := by
  induction t with
  | nil => exact Or.inl (List.mem_singleton.mp h)
  | cons d t ih =>
    rw [put] at h
    split at h
    · rcases List.mem_cons.mp h with rfl | h
      · exact Or.inl rfl
      · exact Or.inr (List.mem_cons_of_mem d h)
    · rcases List.mem_cons.mp h with rfl | h
      · exact Or.inr List.mem_cons_self
      · exact (ih h).imp_right (List.mem_cons_of_mem d)

theorem nodup_keys_put {t : Table α} (h : t.keys.Nodup) (key : String) (a : α) :
    (put key a t).keys.Nodup := by
  induction t with
  | nil => exact List.nodup_singleton key
  | cons e t ih =>
    obtain ⟨he, ht⟩ := List.nodup_cons.mp h
    rw [put]
    split
    · rename_i hkey
      exact List.nodup_cons.mpr ⟨hkey ▸ he, ht⟩
    · rename_i hkey
      refine List.nodup_cons.mpr ⟨fun hmem => ?_, ih ht⟩
      obtain ⟨d, hd, hde⟩ := List.mem_map.mp hmem
      rcases mem_put hd with rfl | hd
      · exact hkey hde.symm
      · exact he (List.mem_map.mpr ⟨d, hd, hde⟩)

theorem nodup_keys_putAll {t : Table α} (h : t.keys.Nodup) (more : Table α) :
    (putAll t more).keys.Nodup := by
  induction more generalizing t with
  | nil => exact h
  | cons e more ih => exact ih (nodup_keys_put h e.1 e.2)

theorem nodup_keys_ofPairs (pairs : List (String × α)) : (ofPairs pairs).keys.Nodup :=
  nodup_keys_putAll (t := []) List.nodup_nil pairs

theorem put_of_not_mem {t : Table α} {key : String} (h : key ∉ t.keys) (a : α) :
    put key a t = t ++ [(key, a)] := by
  induction t with
  | nil => rfl
  | cons e t ih =>
    obtain ⟨he, ht⟩ := List.ne_and_not_mem_of_not_mem_cons h
    rw [put, if_neg (Ne.symm he), ih ht, List.cons_append]

theorem putAll_eq_append {t more : Table α} (h : (keys (t ++ more)).Nodup) :
    putAll t more = t ++ more := by
  induction more generalizing t with
  | nil => exact (List.append_nil t).symm
  | cons e more ih =>
    have hnew : e.1 ∉ t.keys := by
      rw [keys, List.map_append, List.map_cons] at h
      exact fun hmem => (List.nodup_append.mp h).2.2 e.1 hmem e.1 List.mem_cons_self rfl
    rw [List.append_cons] at h ⊢
    change putAll (put e.1 e.2 t) more = _
    rw [put_of_not_mem hnew]
    exact ih h

/-- Nothing changes where every key comes once. -/
theorem ofPairs_eq_self {pairs : List (String × α)} (h : (keys pairs).Nodup) : ofPairs pairs = pairs :=
  putAll_eq_append (t := []) h

theorem mem_of_mem_ofPairs {pairs : List (String × α)} {e : String × α} (h : e ∈ ofPairs pairs) :
    e ∈ pairs := by
  have hputAll : ∀ t : Table α, e ∈ putAll t pairs → e ∈ t ∨ e ∈ pairs := by
    clear h
    induction pairs with
    | nil => exact fun t ht => Or.inl ht
    | cons d pairs ih =>
      intro t ht
      rcases ih _ ht with ht | ht
      · exact (mem_put ht).elim (fun hd => Or.inr (hd ▸ List.mem_cons_self)) Or.inl
      · exact Or.inr (List.mem_cons_of_mem d ht)
  exact (hputAll [] h).resolve_left List.not_mem_nil

end Table

namespace Json

/-- No object of the document, however deep it lies, has a key twice. -/
inductive KeyedOnce : Json → Prop where
  | null : KeyedOnce .null
  | bool (b : Bool) : KeyedOnce (.bool b)
  | int (n : Int) : KeyedOnce (.int n)
  | real (x : Binary64) : KeyedOnce (.real x)
  | str (s : String) : KeyedOnce (.str s)
  | arr {items : List Json} (h : ∀ v ∈ items, KeyedOnce v) : KeyedOnce (.arr items)
  | obj {fs : Json.Fields} (hkeys : fs.keys.Nodup) (h : ∀ e ∈ fs, KeyedOnce e.2) : KeyedOnce (.obj fs)

def Scan.Finds {α : Type} (P : α → Prop) (scan : Scan α) : Prop :=
  ∀ a rest, scan = .ok (a, rest) → P a

theorem Scan.Finds.map {α β : Type} {P : α → Prop} {Q : β → Prop} {scan : Scan α} (h : scan.Finds P)
    {f : α → β} (hf : ∀ a, P a → Q (f a)) :
    Scan.Finds Q (Except.map (fun x => (f x.1, x.2)) scan) := by
  intro b rest hb
  cases scan with
  | error e => cases hb
  | ok x =>
    cases hb
    exact hf x.1 (h x.1 x.2 rfl)

theorem readNumber_finds (s : List Char) : (readNumber s).Finds KeyedOnce := by
  intro v rest h
  unfold readNumber at h
  dsimp only at h
  split at h
  · cases h
  · split at h
    · split at h
      · cases h
      · cases h
        exact .int _
    · cases h
      exact .real _

section Fuel

variable {fuel : Nat}

theorem readValue_finds
    (hitems : ∀ depth s, (readItems fuel depth s).Finds fun vs => ∀ v ∈ vs, KeyedOnce v)
    (hmembers : ∀ depth s, (readMembers fuel depth s).Finds fun fs => ∀ e ∈ fs, KeyedOnce e.2)
    (depth : Nat) (s : List Char) : (readValue (fuel + 1) depth s).Finds KeyedOnce := by
  unfold readValue
  split
  · rintro _ _ ⟨⟩
    exact .null
  · rintro _ _ ⟨⟩
    exact .bool true
  · rintro _ _ ⟨⟩
    exact .bool false
  · rintro _ _ ⟨⟩
    exact .real _
  · rintro _ _ ⟨⟩
    exact .real _
  · rintro _ _ ⟨⟩
    exact .real _
  · exact Scan.Finds.map (P := fun _ => True) (f := fun cs => Json.str (String.ofList cs))
      (fun _ _ _ => trivial) fun _ _ => KeyedOnce.str _
  · split
    · exact nofun
    · rintro _ _ ⟨⟩
      exact .arr (List.forall_mem_nil _)
    · exact (hitems _ _).map fun _ => .arr
  · split
    · exact nofun
    · rintro _ _ ⟨⟩
      exact .obj List.nodup_nil (List.forall_mem_nil _)
    · exact (hmembers _ _).map (f := fun pairs => Json.obj (Table.ofPairs pairs))
        fun pairs hpairs => KeyedOnce.obj (Table.nodup_keys_ofPairs pairs) fun e he =>
          hpairs e (Table.mem_of_mem_ofPairs he)
  · exact readNumber_finds _

theorem readItems_finds (hvalue : ∀ depth s, (readValue fuel depth s).Finds KeyedOnce)
    (hitems : ∀ depth s, (readItems fuel depth s).Finds fun vs => ∀ v ∈ vs, KeyedOnce v)
    (depth : Nat) (s : List Char) :
    (readItems (fuel + 1) depth s).Finds fun vs => ∀ v ∈ vs, KeyedOnce v := by
  unfold readItems
  split
  · exact nofun
  · rename_i v rest hread
    have hv := hvalue depth s v rest hread
    split
    · exact (hitems _ _).map fun vs hvs => List.forall_mem_cons.mpr ⟨hv, hvs⟩
    · rintro _ _ ⟨⟩
      exact List.forall_mem_singleton.mpr hv
    · exact nofun

theorem readMembers_finds (hvalue : ∀ depth s, (readValue fuel depth s).Finds KeyedOnce)
    (hmembers : ∀ depth s, (readMembers fuel depth s).Finds fun fs => ∀ e ∈ fs, KeyedOnce e.2)
    (depth : Nat) (s : List Char) :
    (readMembers (fuel + 1) depth s).Finds fun fs => ∀ e ∈ fs, KeyedOnce e.2 := by
  unfold readMembers
  split
  · split
    · exact nofun
    · split
      · split
        · exact nofun
        · rename_i v rest hread
          have hv := hvalue _ _ v rest hread
          split
          · exact (hmembers _ _).map fun fs hfs => List.forall_mem_cons.mpr ⟨hv, hfs⟩
          · rintro _ _ ⟨⟩
            exact List.forall_mem_singleton.mpr hv
          · exact nofun
      · exact nofun
  · exact nofun

end Fuel

/-- The readers call each other, each time with less fuel. -/
theorem readers_find (fuel : Nat) :
    (∀ depth s, (readValue fuel depth s).Finds KeyedOnce) ∧
    (∀ depth s, (readItems fuel depth s).Finds fun vs => ∀ v ∈ vs, KeyedOnce v) ∧
    ∀ depth s, (readMembers fuel depth s).Finds fun fs => ∀ e ∈ fs, KeyedOnce e.2 := by
  induction fuel with
  | zero => exact ⟨fun _ _ => nofun, fun _ _ => nofun, fun _ _ => nofun⟩
  | succ fuel ih =>
    obtain ⟨hvalue, hitems, hmembers⟩ := ih
    exact ⟨readValue_finds hitems hmembers, readItems_finds hvalue hitems,
      readMembers_finds hvalue hmembers⟩

theorem keyedOnce_of_read {maxDepth : Nat} {s : String} {v : Json} (h : read maxDepth s = .ok v) :
    v.KeyedOnce := by
  unfold read at h
  dsimp only at h
  split at h
  · cases h
  · rename_i w r hw
    split_ifs at h
    cases h
    exact (readers_find _).1 _ _ _ _ hw

end Json
end AuditReport
