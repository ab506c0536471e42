import AuditReport.Proofs.Json.KeyedOnce
import AuditReport.Proofs.Json.WrittenText
import AuditReport.Proofs.Text.Decimal

/-!
# Documents that are written and read

A document is written with white space between its parts, and without floating numbers it reads back as
it is, in any layout. The reader asks for integers that are not too long, for objects in which no key comes
twice, and for values that do not lie too deep.
-/
namespace AuditReport

namespace Json

structure Layout.Fits (l : Layout) : Prop where
  lineBreak : ∀ depth, ∀ c ∈ l.lineBreak depth, isLayout c = true
  afterKey : ∃ gap, l.afterKey = ':' :: gap ∧ ∀ c ∈ gap, isLayout c = true

theorem indented_fits : indented.Fits where
  lineBreak depth := by
    intro c hc
    rcases List.mem_cons.mp hc with rfl | hc
    · rfl
    · rw [List.eq_of_mem_replicate hc]
      rfl
  afterKey := ⟨[' '], rfl, List.forall_mem_singleton.mpr rfl⟩

/-- A document without floating numbers that keeps to the limits of the reader. -/
inductive Legible : (depth : Nat) → Json → Prop where
  | null {depth : Nat} : Legible depth .null
  | bool {depth : Nat} (b : Bool) : Legible depth (.bool b)
  | int {depth : Nat} {n : Int} (h : (Nat.toDigits 10 n.natAbs).length ≤ Text.Numeral.maxDigits) :
    Legible depth (.int n)
  | str {depth : Nat} (s : String) : Legible depth (.str s)
  | arr {depth : Nat} {items : List Json} (h : ∀ v ∈ items, Legible depth v) :
    Legible (depth + 1) (.arr items)
  | obj {depth : Nat} {fs : Json.Fields} (hkeys : fs.keys.Nodup) (h : ∀ e ∈ fs, Legible depth e.2) :
    Legible (depth + 1) (.obj fs)

def EndsNumber (r : List Char) : Prop :=
  ∀ c ∈ r.head?, c.isDigit = false ∧ c ≠ '.' ∧ c ≠ 'e' ∧ c ≠ 'E'

theorem skipLayout_append {gap : List Char} (h : ∀ c ∈ gap, isLayout c = true) (r : List Char) :
    skipLayout (gap ++ r) = skipLayout r :=
  List.dropWhile_append_of_pos h

theorem skipLayout_cons {c : Char} (h : isLayout c = false) (r : List Char) :
    skipLayout (c :: r) = c :: r :=
  List.dropWhile_cons_of_neg (by rw [h]; exact Bool.false_ne_true)

section Number

variable {r : List Char}

theorem wholeDigits_toDigits (n : Nat) (hr : EndsNumber r) :
    wholeDigits (Nat.toDigits 10 n ++ r) = (Nat.toDigits 10 n, r) := by
  have hdigits := Text.isDigit_of_mem_toDigits n
  have hstop : r.takeWhile Char.isDigit = [] ∧ r.dropWhile Char.isDigit = r := by
    cases r with
    | nil => exact ⟨rfl, rfl⟩
    | cons c r =>
      have hc : ¬ c.isDigit = true := by
        rw [(hr c rfl).1]
        exact Bool.false_ne_true
      exact ⟨List.takeWhile_cons_of_neg hc, List.dropWhile_cons_of_neg hc⟩
  rcases Nat.eq_zero_or_pos n with rfl | hn
  · rfl
  · rw [wholeDigits, List.takeWhile_append_of_pos hdigits, List.dropWhile_append_of_pos hdigits,
      hstop.1, hstop.2, List.append_nil]
    intro rest h
    have hhead : (Nat.toDigits 10 n ++ r).head? = (Nat.toDigits 10 n).head? :=
      List.head?_append_of_ne_nil _ (Text.toDigits_ne_nil n)
    rw [h] at hhead
    exact Text.head?_toDigits_ne_zero hn hhead.symm

theorem fractionDigits_of_endsNumber (hr : EndsNumber r) : fractionDigits r = ([], r) := by
  rw [fractionDigits]
  rintro rest rfl
  exact (hr '.' rfl).2.1 rfl

theorem exponentPart_of_endsNumber (hr : EndsNumber r) : exponentPart r = (none, r) := by
  cases r with
  | nil => rfl
  | cons c r =>
    obtain ⟨_, _, he, hE⟩ := hr c rfl
    rw [exponentPart, if_neg (not_or.mpr ⟨he, hE⟩)]

theorem readNumber_toString {n : Int}
    (h : (Nat.toDigits 10 n.natAbs).length ≤ Text.Numeral.maxDigits) (hr : EndsNumber r) :
    readNumber ((toString n).toList ++ r) = .ok (.int n, r) := by
  have hwhole := wholeDigits_toDigits n.natAbs hr
  have hvalue := Text.value_toDigits n.natAbs
  obtain ⟨d, ds, hds⟩ := List.exists_cons_of_ne_nil (Text.toDigits_ne_nil n.natAbs)
  have hd : d.isDigit = true :=
    Text.isDigit_of_mem_toDigits n.natAbs d (by rw [hds]; exact List.mem_cons_self)
  rw [hds] at h hwhole hvalue
  rw [Text.toList_toString, hds]
  by_cases hn : n < 0
  · rw [if_pos hn, List.append_assoc, List.singleton_append, readNumber]
    simp only [hwhole, fractionDigits_of_endsNumber hr, exponentPart_of_endsNumber hr,
      List.isEmpty_nil, Option.isNone_none, Bool.and_self, if_true, if_neg (Nat.not_lt.mpr h), hvalue]
    rw [Int.ofNat_natAbs_of_nonpos (Int.le_of_lt hn), Int.neg_neg]
  · have hminus : d ≠ '-' := by
      rintro rfl
      cases hd
    rw [if_neg hn, List.nil_append, readNumber]
    simp only [hwhole, fractionDigits_of_endsNumber hr, exponentPart_of_endsNumber hr,
      List.isEmpty_nil, Option.isNone_none, Bool.and_self, if_true, if_neg (Nat.not_lt.mpr h), hvalue]
    · rw [if_neg Bool.false_ne_true, Int.natAbs_of_nonneg (Int.not_lt.mp hn)]
    · exact fun _ h => hminus (List.cons.inj h).1

theorem readValue_digit {d : Char} (hd : d.isDigit = true) (fuel depth : Nat) (s : List Char) :
    readValue (fuel + 1) depth (d :: s) = readNumber (d :: s) := by
  rw [readValue]
  all_goals
    intro _ h
    obtain rfl := (List.cons.inj h).1
    cases hd

theorem readValue_minus {d : Char} (hd : d.isDigit = true) (fuel depth : Nat) (s : List Char) :
    readValue (fuel + 1) depth ('-' :: d :: s) = readNumber ('-' :: d :: s) := by
  rw [readValue]
  case x_8 =>
    intro _ h
    obtain rfl := (List.cons.inj (List.cons.inj h).2).1
    cases hd
  all_goals exact fun _ h => absurd (List.cons.inj h).1 (by decide)

theorem readValue_toString {n : Int}
    (h : (Nat.toDigits 10 n.natAbs).length ≤ Text.Numeral.maxDigits) (hr : EndsNumber r)
    (fuel depth : Nat) : readValue (fuel + 1) depth ((toString n).toList ++ r) = .ok (.int n, r) := by
  rw [← readNumber_toString h hr]
  obtain ⟨d, ds, hds⟩ := List.exists_cons_of_ne_nil (Text.toDigits_ne_nil n.natAbs)
  have hd : d.isDigit = true :=
    Text.isDigit_of_mem_toDigits n.natAbs d (by rw [hds]; exact List.mem_cons_self)
  rw [Text.toList_toString, hds]
  by_cases hn : n < 0
  · rw [if_pos hn]
    exact readValue_minus hd fuel depth (ds ++ r)
  · rw [if_neg hn]
    exact readValue_digit hd fuel depth (ds ++ r)

end Number

theorem EndsNumber.of_head {c : Char} (h : c.isDigit = false) (hpoint : c ≠ '.') (he : c ≠ 'e')
    (hE : c ≠ 'E') (r : List Char) : EndsNumber (c :: r) := by
  intro d hd
  cases hd
  exact ⟨h, hpoint, he, hE⟩

theorem EndsNumber.of_gap {gap r : List Char} (hgap : ∀ c ∈ gap, isLayout c = true) (hr : EndsNumber r) :
    EndsNumber (gap ++ r) := by
  cases gap with
  | nil => exact hr
  | cons c gap =>
    have hc := hgap c List.mem_cons_self
    simp only [isLayout, Bool.or_eq_true, beq_iff_eq] at hc
    rcases hc with ((rfl | rfl) | rfl) | rfl <;> exact .of_head rfl (by decide) (by decide) (by decide) _

/-- An item behind another one. -/
theorem writeItems_cons_append (l : Layout) (level : Nat) (v : Json) (vs : List Json) (r : List Char) :
    writeItems l level (v :: vs) ++ r =
      ',' :: (l.lineBreak level ++ (write l level v ++ (writeItems l level vs ++ r))) := by
  simp only [writeItems, List.cons_append, List.append_assoc]

def writeEntry (l : Layout) (level : Nat) (e : String × Json) : List Char :=
  writeText e.1 ++ l.afterKey ++ write l level e.2

/-- An entry behind another one. -/
theorem writeFields_cons_append (l : Layout) (level : Nat) (e : String × Json) (fs : Json.Fields)
    (r : List Char) : writeFields l level (e :: fs) ++ r =
      ',' :: (l.lineBreak level ++ (writeEntry l level e ++ (writeFields l level fs ++ r))) := by
  simp only [writeFields, writeEntry, List.cons_append, List.append_assoc]

theorem skipLayout_writeEntry {gap : List Char} (hgap : ∀ c ∈ gap, isLayout c = true) (l : Layout)
    (level : Nat) (e : String × Json) (r : List Char) :
    skipLayout (gap ++ (writeEntry l level e ++ r)) = writeEntry l level e ++ r :=
  (skipLayout_append hgap _).trans (skipLayout_cons rfl _)

/-- What is written of a value can be told from white space and from the end of a list, and with enough
fuel the value is read of it. -/
structure ReadsBack (l : Layout) (depth : Nat) (v : Json) : Prop where
  head : ∀ level, ∃ c cs, write l level v = c :: cs ∧ isLayout c = false ∧ c ≠ ']'
  read : ∀ level fuel r, EndsNumber r → 2 * (write l level v).length ≤ fuel →
    readValue fuel depth (write l level v ++ r) = .ok (v, r)

theorem readValue_bracket {s : List Char} (h : ∀ r, skipLayout s ≠ ']' :: r) (fuel depth : Nat) :
    readValue (fuel + 1) (depth + 1) ('[' :: s) =
      (readItems fuel depth (skipLayout s)).map fun (items, r) => (.arr items, r) := by
  simp only [readValue]

theorem readValue_brace {s : List Char} (h : ∀ r, skipLayout s ≠ '}' :: r) (fuel depth : Nat) :
    readValue (fuel + 1) (depth + 1) ('{' :: s) =
      (readMembers fuel depth (skipLayout s)).map fun (pairs, r) => (.obj (Table.ofPairs pairs), r) := by
  simp only [readValue]

/-- Fuel is left to read any value that is written. -/
theorem ReadsBack.of_succ {l : Layout} {depth : Nat} {v : Json}
    (head : ∀ level, ∃ c cs, write l level v = c :: cs ∧ isLayout c = false ∧ c ≠ ']')
    (read : ∀ level fuel r, EndsNumber r → 2 * (write l level v).length ≤ fuel + 1 →
      readValue (fuel + 1) depth (write l level v ++ r) = .ok (v, r)) : ReadsBack l depth v where
  head := head
  read level fuel r hr hfuel := by
    cases fuel with
    | zero =>
      obtain ⟨c, cs, hwrite, _⟩ := head level
      rw [hwrite] at hfuel
      cases hfuel
    | succ fuel => exact read level fuel r hr hfuel

section Layout

variable {l : Layout} {depth : Nat} {v : Json}

theorem ReadsBack.skipLayout_write (h : ReadsBack l depth v) {gap : List Char}
    (hgap : ∀ c ∈ gap, isLayout c = true) (level : Nat) (r : List Char) :
    skipLayout (gap ++ (write l level v ++ r)) = write l level v ++ r := by
  obtain ⟨c, cs, hwrite, hc, _⟩ := h.head level
  rw [skipLayout_append hgap, hwrite, List.cons_append, skipLayout_cons hc]

variable (hl : l.Fits)
include hl

theorem readItems_written {vs : List Json} (hv : ReadsBack l depth v)
    (hvs : ∀ w ∈ vs, ReadsBack l depth w) {gap : List Char} (hgap : ∀ c ∈ gap, isLayout c = true)
    (level : Nat) (r : List Char) {fuel : Nat}
    (hfuel : 2 * ((write l level v).length + (writeItems l level vs).length) < fuel) :
    readItems fuel depth (write l level v ++ (writeItems l level vs ++ (gap ++ ']' :: r))) =
      .ok (v :: vs, r) := by
  induction vs generalizing v fuel with
  | nil =>
    obtain ⟨fuel, rfl⟩ := Nat.exists_eq_add_one_of_ne_zero (Nat.ne_zero_of_lt hfuel)
    have hends : EndsNumber (gap ++ ']' :: r) :=
      .of_gap hgap (.of_head rfl (by decide) (by decide) (by decide) r)
    have hlast : skipLayout (gap ++ ']' :: r) = ']' :: r := by
      rw [skipLayout_append hgap, skipLayout_cons rfl]
    simp only [writeItems, List.nil_append, readItems, hv.read level fuel _ hends (by omega), hlast]
  | cons w ws ih =>
    obtain ⟨fuel, rfl⟩ := Nat.exists_eq_add_one_of_ne_zero (Nat.ne_zero_of_lt hfuel)
    obtain ⟨hw, hws⟩ := List.forall_mem_cons.mp hvs
    have hlen : 1 + (write l level w).length + (writeItems l level ws).length ≤
        (writeItems l level (w :: ws)).length := by
      simp only [writeItems, List.length_append, List.length_cons]
      omega
    have hrest : readItems fuel depth _ = _ := ih hw hws (by omega)
    have hends : ∀ t : List Char, EndsNumber (',' :: t) :=
      .of_head rfl (by decide) (by decide) (by decide)
    have hcomma : ∀ t : List Char, skipLayout (',' :: t) = ',' :: t := skipLayout_cons rfl
    rw [writeItems_cons_append]
    simp only [readItems, hv.read level fuel _ (hends _) (by omega), hcomma,
      hw.skipLayout_write (hl.lineBreak level), hrest, Except.map]

/-- Behind its value an entry is followed by another one, or it is the last. -/
theorem readMembers_entry {e : String × Json} (he : ReadsBack l depth e.2) (level : Nat)
    {r : List Char} (hr : EndsNumber r) {fuel : Nat} (hfuel : 2 * (write l level e.2).length ≤ fuel) :
    (∀ rest, skipLayout r = ',' :: rest → readMembers (fuel + 1) depth (writeEntry l level e ++ r) =
      (readMembers fuel depth (skipLayout rest)).map fun x => (e :: x.1, x.2)) ∧
    ∀ rest, skipLayout r = '}' :: rest →
      readMembers (fuel + 1) depth (writeEntry l level e ++ r) = .ok ([e], rest) := by
  obtain ⟨key, v⟩ := e
  obtain ⟨gap, hgap, hlayout⟩ := hl.afterKey
  have htext : writeEntry l level (key, v) ++ r = '"' :: (key.toList.flatMap writeChar ++
      '"' :: ':' :: (gap ++ (write l level v ++ r))) := by
    rw [writeEntry, hgap, writeText]
    simp only [List.cons_append, List.append_assoc, List.nil_append]
  have hcolon : skipLayout (':' :: (gap ++ (write l level v ++ r))) =
      ':' :: (gap ++ (write l level v ++ r)) := skipLayout_cons rfl _
  have hvalue : readValue fuel depth (skipLayout (gap ++ (write l level v ++ r))) = .ok (v, r) := by
    rw [he.skipLayout_write hlayout, he.read level fuel r hr hfuel]
  rw [htext]
  constructor
  · intro rest hrest
    simp only [readMembers, readText_written, hcolon, hvalue, hrest, String.ofList_toList]
  · intro rest hrest
    simp only [readMembers, readText_written, hcolon, hvalue, hrest, String.ofList_toList]

theorem readMembers_written {e : String × Json} {fs : Json.Fields} (he : ReadsBack l depth e.2)
    (hfs : ∀ e ∈ fs, ReadsBack l depth e.2) {gap : List Char}
    (hgap : ∀ c ∈ gap, isLayout c = true) (level : Nat) (r : List Char) {fuel : Nat}
    (hfuel : 2 * ((write l level e.2).length + (writeFields l level fs).length) < fuel) :
    readMembers fuel depth (writeEntry l level e ++ (writeFields l level fs ++ (gap ++ '}' :: r))) =
      .ok (e :: fs, r) := by
  induction fs generalizing e fuel with
  | nil =>
    obtain ⟨fuel, rfl⟩ := Nat.exists_eq_add_one_of_ne_zero (Nat.ne_zero_of_lt hfuel)
    have hends : EndsNumber (gap ++ '}' :: r) :=
      .of_gap hgap (.of_head rfl (by decide) (by decide) (by decide) r)
    have hlast : skipLayout (gap ++ '}' :: r) = '}' :: r := by
      rw [skipLayout_append hgap, skipLayout_cons rfl]
    rw [writeFields, List.nil_append, (readMembers_entry hl he level hends (by omega)).2 r hlast]
  | cons d fs ih =>
    obtain ⟨fuel, rfl⟩ := Nat.exists_eq_add_one_of_ne_zero (Nat.ne_zero_of_lt hfuel)
    obtain ⟨hd, hfs⟩ := List.forall_mem_cons.mp hfs
    have hlen : 1 + (write l level d.2).length + (writeFields l level fs).length ≤
        (writeFields l level (d :: fs)).length := by
      simp only [writeFields, List.length_append, List.length_cons]
      omega
    have hrest : readMembers fuel depth _ = _ := ih hd hfs (by omega)
    have hends : ∀ t : List Char, EndsNumber (',' :: t) :=
      .of_head rfl (by decide) (by decide) (by decide)
    rw [writeFields_cons_append,
      (readMembers_entry hl he level (hends _) (by omega)).1 _ (skipLayout_cons rfl _),
      skipLayout_writeEntry (hl.lineBreak level), hrest]
    rfl

theorem readsBack_arr {vs : List Json} (hvs : ∀ v ∈ vs, ReadsBack l depth v) :
    ReadsBack l (depth + 1) (.arr vs) := by
  cases vs with
  | nil =>
    refine .of_succ (fun level => ⟨'[', [']'], rfl, rfl, by decide⟩) ?_
    intro level fuel r _ _
    have hskip : skipLayout (']' :: r) = ']' :: r := skipLayout_cons rfl r
    simp only [write, List.cons_append, List.nil_append, readValue, hskip]
  | cons v vs =>
    obtain ⟨hv, hvs⟩ := List.forall_mem_cons.mp hvs
    refine .of_succ (fun level => ⟨'[', _, rfl, rfl, by decide⟩) ?_
    intro level fuel r _ hfuel
    have hwrite : write l level (.arr (v :: vs)) ++ r = '[' :: (l.lineBreak (level + 1) ++
        (write l (level + 1) v ++ (writeItems l (level + 1) vs ++ (l.lineBreak level ++ ']' :: r)))) := by
      simp only [write, List.cons_append, List.append_assoc, List.nil_append]
    have hlen : 2 + (write l (level + 1) v).length + (writeItems l (level + 1) vs).length ≤
        (write l level (.arr (v :: vs))).length := by
      simp only [write, List.length_append, List.length_cons, List.length_nil]
      omega
    have hskip := hv.skipLayout_write (hl.lineBreak (level + 1)) (level + 1)
      (writeItems l (level + 1) vs ++ (l.lineBreak level ++ ']' :: r))
    have hne : ∀ t, write l (level + 1) v ++
        (writeItems l (level + 1) vs ++ (l.lineBreak level ++ ']' :: r)) ≠ ']' :: t := by
      intro t ht
      obtain ⟨c, cs, hhead, _, hc⟩ := hv.head (level + 1)
      rw [hhead] at ht
      exact hc (List.cons.inj ht).1
    rw [hwrite, readValue_bracket (by rwa [hskip]), hskip,
      readItems_written hl hv hvs (hl.lineBreak level) (level + 1) r (by omega)]
    rfl

theorem readsBack_obj {fs : Json.Fields} (hkeys : fs.keys.Nodup)
    (hfs : ∀ e ∈ fs, ReadsBack l depth e.2) : ReadsBack l (depth + 1) (.obj fs) := by
  cases fs with
  | nil =>
    refine .of_succ (fun level => ⟨'{', ['}'], rfl, rfl, by decide⟩) ?_
    intro level fuel r _ _
    have hskip : skipLayout ('}' :: r) = '}' :: r := skipLayout_cons rfl r
    simp only [write, List.cons_append, List.nil_append, readValue, hskip]
  | cons e fs =>
    obtain ⟨he, hfs⟩ := List.forall_mem_cons.mp hfs
    refine .of_succ (fun level => ⟨'{', _, rfl, rfl, by decide⟩) ?_
    intro level fuel r _ hfuel
    have hwrite : write l level (.obj (e :: fs)) ++ r = '{' :: (l.lineBreak (level + 1) ++
        (writeEntry l (level + 1) e ++ (writeFields l (level + 1) fs ++
          (l.lineBreak level ++ '}' :: r)))) := by
      simp only [write, writeEntry, List.cons_append, List.append_assoc, List.nil_append]
    have hlen : 2 + (write l (level + 1) e.2).length + (writeFields l (level + 1) fs).length ≤
        (write l level (.obj (e :: fs))).length := by
      simp only [write, List.length_append, List.length_cons, List.length_nil]
      omega
    have hskip := skipLayout_writeEntry (hl.lineBreak (level + 1)) l (level + 1) e
      (writeFields l (level + 1) fs ++ (l.lineBreak level ++ '}' :: r))
    have hne : ∀ t, writeEntry l (level + 1) e ++ (writeFields l (level + 1) fs ++
        (l.lineBreak level ++ '}' :: r)) ≠ '}' :: t :=
      fun _ h => absurd (List.cons.inj h).1 (by decide)
    rw [hwrite, readValue_brace (by rwa [hskip]), hskip,
      readMembers_written hl he hfs (hl.lineBreak level) (level + 1) r (by omega)]
    change Except.ok (Json.obj (Table.ofPairs (e :: fs)), r) = _
    rw [Table.ofPairs_eq_self hkeys]

theorem Legible.readsBack (hv : Legible depth v) : ReadsBack l depth v := by
  induction hv with
  | null =>
    refine .of_succ (fun _ => ⟨'n', _, rfl, rfl, by decide⟩) ?_
    intro level fuel r _ _
    simp only [write, List.cons_append, List.nil_append, readValue]
  | bool b =>
    cases b with
    | false =>
      refine .of_succ (fun _ => ⟨'f', _, rfl, rfl, by decide⟩) ?_
      intro level fuel r _ _
      simp only [write, List.cons_append, List.nil_append, readValue]
    | true =>
      refine .of_succ (fun _ => ⟨'t', _, rfl, rfl, by decide⟩) ?_
      intro level fuel r _ _
      simp only [write, List.cons_append, List.nil_append, readValue]
  | @int depth n hn =>
    refine .of_succ (fun level => ?_) fun level fuel r hr _ => ?_
    · have hmem : ∀ c ∈ (toString n).toList, isLayout c = false ∧ c ≠ ']' :=
        Text.forall_mem_toString ⟨rfl, by decide⟩ fun d hd => by
          interval_cases d <;> exact ⟨rfl, by decide⟩
      have hne : (toString n).toList ≠ [] := by
        rw [Text.toList_toString]
        exact List.append_ne_nil_of_right_ne_nil _ (Text.toDigits_ne_nil _)
      obtain ⟨c, cs, hcs⟩ := List.exists_cons_of_ne_nil hne
      rw [hcs] at hmem
      exact ⟨c, cs, hcs, hmem c List.mem_cons_self⟩
    · rw [write]
      exact readValue_toString hn hr fuel _
  | str s =>
    refine .of_succ (fun _ => ⟨'"', _, rfl, rfl, by decide⟩) fun level fuel r _ _ => ?_
    have htext : write l level (.str s) ++ r = '"' :: (s.toList.flatMap writeChar ++ '"' :: r) := by
      simp only [write, writeText, List.cons_append, List.append_assoc, List.nil_append]
    rw [htext, readValue, readText_written]
    change Except.ok (Json.str (String.ofList s.toList), r) = _
    rw [String.ofList_toList]
  | arr _ ih => exact readsBack_arr hl ih
  | obj hkeys _ ih => exact readsBack_obj hl hkeys ih

/-- A document reads back as it is, whatever white space is behind it. -/
theorem read_render (hv : Legible depth v) {behind : String}
    (hbehind : ∀ c ∈ behind.toList, isLayout c = true) : read depth (render l v ++ behind) = .ok v := by
  have hread := hv.readsBack hl
  have hskip := hread.skipLayout_write (List.forall_mem_nil _) 0 behind.toList
  have hends : EndsNumber behind.toList := by
    rw [← List.append_nil behind.toList]
    exact .of_gap hbehind fun _ h => absurd h (Option.not_mem_none _)
  rw [List.nil_append] at hskip
  rw [read, render, String.toList_append, String.toList_ofList, hskip,
    hread.read 0 _ _ hends (by rw [fuelFor, List.length_append]; omega)]
  have hrest : skipLayout behind.toList = [] := List.dropWhile_eq_nil_iff.mpr hbehind
  dsimp only
  rw [hrest]
  rfl

end Layout

end Json
end AuditReport
