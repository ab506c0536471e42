import AuditReport.Proofs.Syntax.SearchedTree
import Mathlib.Data.List.Sort
import Mathlib.Data.List.Range

/-!
# File indices and the ids of sources

The sources of an artifact are counted in the order of their ids. So a file index names the source that
has as many ids below its own, and this is the source with that id just when no id below it is left
out. Over all file indices the two agree exactly if the ids are those from zero on.
-/
namespace AuditReport

theorem countP_lt_of_pairwise {ns : List Int} (h : ns.Pairwise (· < ·)) {k : Nat} {n : Int}
    (hk : ns[k]? = some n) : (ns.countP fun m => m < n) = k := by
  induction ns generalizing k with
  | nil => cases hk
  | cons m ns ih =>
    obtain ⟨hm, hns⟩ := List.pairwise_cons.mp h
    cases k with
    | zero =>
      cases hk
      rw [List.countP_cons_of_neg (by simp), List.countP_eq_zero]
      intro i hi
      have := hm i hi
      simp only [decide_eq_true_eq]
      omega
    | succ k =>
      have hn : n ∈ ns := List.mem_of_getElem? hk
      rw [List.countP_cons_of_pos (by simpa using hm n hn), ih hns hk]

namespace Artifact

variable {a : Artifact}

structure DistinctIds (a : Artifact) : Prop where
  given : ∀ s ∈ a.sources, ∃ n : Nat, s.2.id = some (n : Int)
  distinct : (a.sources.map (·.2.id)).Nodup

def idsBelow (a : Artifact) (n : Int) : Nat :=
  a.sources.countP fun s => s.2.id.any (· < n)

def byId (a : Artifact) : Table SourceFile :=
  a.sources.mergeSort fun e f => idOrder e.2 f.2

theorem byId_perm (a : Artifact) : a.byId.Perm a.sources :=
  List.mergeSort_perm _ _

theorem idOrder_trans (s t u : SourceFile) (hst : idOrder s t = true) (htu : idOrder t u = true) :
    idOrder s u = true := by
  unfold idOrder at *
  cases hs : s.id <;> cases ht : t.id <;> cases hu : u.id <;> simp_all
  omega

theorem idOrder_total (s t : SourceFile) : (idOrder s t || idOrder t s) = true := by
  unfold idOrder
  cases s.id <;> cases t.id <;> simp
  omega

def idNumber (s : String × SourceFile) : Int :=
  s.2.id.getD 0

theorem DistinctIds.id_eq (h : a.DistinctIds) {s : String × SourceFile} (hs : s ∈ a.sources) :
    s.2.id = some (idNumber s) := by
  obtain ⟨n, hn⟩ := h.given s hs
  rw [idNumber, hn]
  rfl

theorem DistinctIds.pairwise_byId (h : a.DistinctIds) :
    (a.byId.map idNumber).Pairwise (· < ·) := by
  have hsorted : a.byId.Pairwise fun e f => idOrder e.2 f.2 = true :=
    List.pairwise_mergeSort (fun e f g => idOrder_trans e.2 f.2 g.2)
      (fun e f => idOrder_total e.2 f.2) _
  have hnodup : (a.byId.map (·.2.id)).Nodup := (a.byId_perm.map _).nodup_iff.mpr h.distinct
  rw [List.pairwise_map]
  apply (hsorted.and (List.pairwise_map.mp hnodup)).imp_of_mem
  intro s t hs ht hst
  have hs' := h.id_eq (a.byId_perm.mem_iff.mp hs)
  have ht' := h.id_eq (a.byId_perm.mem_iff.mp ht)
  have hle : idNumber s ≤ idNumber t := by simpa [idOrder, hs', ht'] using hst.1
  have hne : idNumber s ≠ idNumber t := by
    intro he
    exact hst.2 (by rw [hs', ht', he])
  omega

theorem DistinctIds.idsBelow_eq_countP (h : a.DistinctIds) (n : Int) :
    a.idsBelow n = (a.byId.map idNumber).countP fun m => m < n := by
  rw [idsBelow, ← a.byId_perm.countP_eq, List.countP_map]
  apply List.countP_congr
  intro s hs
  simp [h.id_eq (a.byId_perm.mem_iff.mp hs)]

/-- A source comes after those with lower ids. -/
theorem DistinctIds.idsBelow_of_getElem? (h : a.DistinctIds) {k : Nat} {s : String × SourceFile}
    (hs : a.byId[k]? = some s) : a.idsBelow (idNumber s) = k := by
  rw [h.idsBelow_eq_countP]
  exact countP_lt_of_pairwise h.pairwise_byId (by rw [List.getElem?_map, hs]; rfl)

/-- Where no id below a number is left out, there are as many ids below it. -/
theorem DistinctIds.idsBelow_of_forall (h : a.DistinctIds) {n : Nat}
    (hall : ∀ i < n, ∃ s ∈ a.sources, s.2.id = some (i : Int)) : a.idsBelow n = n := by
  have hperm : ((a.byId.map idNumber).filter fun m : Int => m < n).Perm
      ((List.range n).map fun i : Nat => (i : Int)) := by
    apply (List.perm_ext_iff_of_nodup _ _).mpr
    · intro m
      simp only [List.mem_filter, List.mem_map, decide_eq_true_eq, List.mem_range]
      constructor
      · rintro ⟨⟨s, hs, rfl⟩, hlt⟩
        obtain ⟨i, hi⟩ := h.given s (a.byId_perm.mem_iff.mp hs)
        rw [idNumber, hi] at hlt ⊢
        exact ⟨i, Int.ofNat_lt.mp hlt, rfl⟩
      · rintro ⟨i, hi, rfl⟩
        obtain ⟨s, hs, hid⟩ := hall i hi
        exact ⟨⟨s, a.byId_perm.mem_iff.mpr hs, by rw [idNumber, hid]; rfl⟩, by omega⟩
    · exact (h.pairwise_byId.imp fun hlt => by omega).filter _
    · exact List.nodup_range.map fun _ _ => Int.ofNat.inj
  rw [h.idsBelow_eq_countP, List.countP_eq_length_filter, hperm.length_eq, List.length_map,
    List.length_range]

end Artifact

namespace Resolver

/-- An entry names the source whose id its file index is, and none if there is no such id. -/
structure NamesById (r : Resolver) (sources : Table SourceFile) (e : SourceMap.Entry) : Prop where
  named : ∀ s ∈ sources, s.2.id = some e.fileIndex → r.sourceName? e = some s.1
  nameless : (∀ s ∈ sources, s.2.id ≠ some e.fileIndex) → r.sourceName? e = none

structure CountsById (r : Resolver) (a : Artifact) : Prop where
  eq_some_iff : ∀ e path, r.sourceName? e = some path ↔
    ∃ s n, (path, s) ∈ a.sources ∧ s.id = some n ∧ e.fileIndex = a.idsBelow n
  eq_none_iff : ∀ e, r.sourceName? e = none ↔
    e.fileIndex < 0 ∨ (a.sources.length : Int) ≤ e.fileIndex
  /-- A source is named by its id if no number below that is left out. -/
  named : ∀ s ∈ a.sources, ∀ n : Nat, s.2.id = some (n : Int) →
    (∀ i < n, ∃ t ∈ a.sources, t.2.id = some (i : Int)) →
    ∀ e : SourceMap.Entry, e.fileIndex = n → r.sourceName? e = some s.1
  namesById_iff : (∀ e, r.NamesById a.sources e) ↔
    ∀ i < a.sources.length, ∃ s ∈ a.sources, s.2.id = some (i : Int)

end Resolver

namespace Artifact

variable {a : Artifact}

theorem sourceName?_ofNames {r : Resolver} (hr : r.sourceNames = a.sourceNames)
    (e : SourceMap.Entry) : r.sourceName? e =
      if e.fileIndex < 0 then none else a.byId[e.fileIndex.toNat]?.map (·.1) := by
  rw [Resolver.sourceName?, hr, sourceNames, List.getElem?_map]
  rfl

theorem length_byId (a : Artifact) : a.byId.length = a.sources.length :=
  List.length_mergeSort _

theorem DistinctIds.countsById (h : a.DistinctIds) {r : Resolver}
    (hr : r.sourceNames = a.sourceNames) : r.CountsById a := by
  have hsome : ∀ e path, r.sourceName? e = some path ↔
      ∃ s n, (path, s) ∈ a.sources ∧ s.id = some n ∧ e.fileIndex = a.idsBelow n := by
    intro e path
    rw [sourceName?_ofNames hr]
    constructor
    · intro hname
      split at hname
      · cases hname
      · rename_i hlow
        obtain ⟨s, hs, rfl⟩ := Option.map_eq_some_iff.mp hname
        have hmem := a.byId_perm.mem_iff.mp (List.mem_of_getElem? hs)
        refine ⟨s.2, idNumber s, hmem, h.id_eq hmem, ?_⟩
        rw [h.idsBelow_of_getElem? hs]
        omega
    · rintro ⟨s, n, hs, hn, hindex⟩
      obtain ⟨k, hk⟩ := List.mem_iff_getElem?.mp (a.byId_perm.mem_iff.mpr hs)
      have hcount := h.idsBelow_of_getElem? hk
      have hnumber : idNumber (path, s) = n := by rw [idNumber, hn]; rfl
      rw [hnumber] at hcount
      rw [if_neg (by omega), hindex, hcount, Int.toNat_natCast, hk]
      rfl
  have hnone : ∀ e, r.sourceName? e = none ↔
      e.fileIndex < 0 ∨ (a.sources.length : Int) ≤ e.fileIndex := by
    intro e
    rw [sourceName?_ofNames hr]
    split
    · simp [*]
    · rw [Option.map_eq_none_iff, List.getElem?_eq_none_iff, length_byId]
      omega
  have hnamed : ∀ s ∈ a.sources, ∀ n : Nat, s.2.id = some (n : Int) →
      (∀ i < n, ∃ t ∈ a.sources, t.2.id = some (i : Int)) →
      ∀ e : SourceMap.Entry, e.fileIndex = n → r.sourceName? e = some s.1 := by
    intro s hs n hn hall e he
    exact (hsome e s.1).mpr ⟨s.2, n, hs, hn, by rw [he, h.idsBelow_of_forall hall]⟩
  refine ⟨hsome, hnone, hnamed, ?_, ?_⟩
  · intro hby i hi
    -- An index in range names some source, so it is an id.
    by_contra hno
    have hindex := (hby ⟨0, 0, i, .regular⟩).nameless fun s hs hid => hno ⟨s, hs, hid⟩
    have := (hnone _).mp hindex
    dsimp only at this
    omega
  · intro hall e
    constructor
    · intro s hs hid
      obtain ⟨n, hn⟩ := h.given s hs
      -- All sources have ids below their number, since so many numbers are ids.
      have hbelow := List.countP_eq_length.mp (h.idsBelow_of_forall hall) s hs
      rw [hn, Option.any_some, decide_eq_true_eq] at hbelow
      exact hnamed s hs n hn (fun i hi => hall i (by omega)) e (Option.some.inj (hid.symm.trans hn))
    · intro hno
      rw [hnone]
      by_contra hrange
      obtain ⟨s, hs, hid⟩ := hall e.fileIndex.toNat (by omega)
      exact hno s hs (by rw [hid]; congr 1; omega)

end Artifact

/-- The resolver of a contract counts the sources by their ids. -/
theorem ContractView.resolver_countsById {a : Artifact} {v : ContractView}
    (hv : ContractView.ofArtifact a = .ok v) (h : a.DistinctIds) : v.resolver.CountsById a := by
  obtain ⟨instructions, entries, _, _, rfl⟩ := ContractView.ofArtifact_eq_ok_iff.mp hv
  exact h.countsById rfl

/-- Two sources, not in the order of their ids, of which none is zero. -/
def withoutIdZero : Artifact where
  name := "A"
  bytecode := ""
  deployedBytecode := "00"
  sourceMap := ""
  deployedSourceMap := "0:1:1"
  sourcePath := "a.sol"
  source := ""
  ast := none
  legacyAst := none
  compilerVersion := none
  sources := [("b.sol", ⟨"b", none, none, some 2⟩), ("a.sol", ⟨"a", none, none, some 1⟩)]

theorem distinctIds_withoutIdZero : withoutIdZero.DistinctIds where
  given := by
    simp only [withoutIdZero, List.forall_mem_cons]
    exact ⟨⟨2, rfl⟩, ⟨1, rfl⟩, List.forall_mem_nil _⟩
  distinct := by decide

theorem withoutIdZero_countsById : ∃ v, ContractView.ofArtifact withoutIdZero = .ok v ∧
    v.resolver.CountsById withoutIdZero :=
  ⟨_, rfl, ContractView.resolver_countsById rfl distinctIds_withoutIdZero⟩

/-- The first id is that of a source, but as a file index it names another one. -/
theorem not_forall_namesById : ¬ ∀ (a : Artifact) (v : ContractView),
    ContractView.ofArtifact a = .ok v → a.DistinctIds →
      ∀ e, v.resolver.NamesById a.sources e := by
  intro hall
  have hname := (hall withoutIdZero _ rfl distinctIds_withoutIdZero ⟨0, 1, 1, .regular⟩).named
    ("a.sol", ⟨"a", none, none, some 1⟩) (by simp [withoutIdZero]) rfl
  obtain ⟨s, n, hs, hn, hindex⟩ :=
    ((distinctIds_withoutIdZero.countsById rfl).eq_some_iff _ _).mp hname
  have hone : n = 1 := by
    simp only [withoutIdZero, List.mem_cons, Prod.mk.injEq, String.reduceEq, false_and, true_and,
      false_or, List.not_mem_nil, or_false] at hs
    rw [hs] at hn
    exact (Option.some.inj hn).symm
  subst hone
  exact absurd hindex (by decide)

end AuditReport
