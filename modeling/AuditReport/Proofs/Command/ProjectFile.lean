import AuditReport.Proofs.Command.Defects

/-!
# Files with options of a project

A file of a project that is missing, that cannot be read as a file or that holds no object counts as one
without options. This does not go for bytes that are no UTF-8 and for texts beyond the limits of the
reader: with such a file in its directory every run is cut off.
-/
namespace AuditReport

namespace Disk

def HoldsOptions (maxDepth : Nat) (d : Disk) (root : String) (fs : Json.Fields) : Prop :=
  ∃ bytes, d.read (childPath root projectFile) = .ok bytes ∧ Holds maxDepth bytes (.obj fs)

/-- Options are found in the directory whatever the file is: those that it holds, and else none. -/
structure ForgivesProject (maxDepth : Nat) (d : Disk) (root : String) : Prop where
  returned : ∃ fs, d.projectOptions maxDepth root = .ok fs
  held : ∀ fs, d.HoldsOptions maxDepth root fs → d.projectOptions maxDepth root = .ok fs
  otherwise : (¬ ∃ fs, d.HoldsOptions maxDepth root fs) → d.projectOptions maxDepth root = .ok []

theorem hasDefect_optionsOf_iff {x : Except Json.ReadFlaw Json} :
    HasDefect (optionsOf x) ↔ ∃ flaw, x = .error flaw ∧ flaw ≠ .malformed := by
  match x with
  | .ok v => cases v <;> simp [HasDefect, optionsOf]
  | .error flaw => cases flaw <;> simp [HasDefect, optionsOf]

/-- What is not a defect is the object that is read, or no object is and there are no options. -/
theorem optionsOf_cases {x : Except Json.ReadFlaw Json} (h : ¬ HasDefect (optionsOf x)) :
    (∃ fs, x = .ok (.obj fs) ∧ optionsOf x = .ok fs) ∨
      (¬ ∃ fs, x = .ok (.obj fs)) ∧ optionsOf x = .ok [] := by
  match x with
  | .ok v => cases v <;> simp [optionsOf]
  | .error .malformed => simp [optionsOf]
  | .error (.integerTooLong _) => exact absurd ⟨_, rfl⟩ h
  | .error .tooDeep => exact absurd ⟨_, rfl⟩ h

section File

variable {maxDepth : Nat} {d : Disk} {root s : String} {bytes : ByteArray} {fs : Json.Fields}

theorem projectOptions_eq (hroot : isUsable root = true)
    (hread : d.read (childPath root projectFile) = .ok bytes) (hs : String.fromUTF8? bytes = some s) :
    d.projectOptions maxDepth root = optionsOf (Json.read maxDepth s) := by
  simp only [projectOptions, hroot, hread, hs, Bool.not_true, Bool.false_eq_true, if_false]

theorem holdsOptions_iff (hread : d.read (childPath root projectFile) = .ok bytes)
    (hs : String.fromUTF8? bytes = some s) :
    d.HoldsOptions maxDepth root fs ↔ Json.read maxDepth s = .ok (.obj fs) := by
  simp [HoldsOptions, Holds, hread, hs]

theorem not_hasDefect_projectOptions_iff : ¬ HasDefect (d.projectOptions maxDepth root) ↔
    isUsable root = true ∧
      ∀ bytes, d.read (childPath root projectFile) = .ok bytes → Readable maxDepth bytes := by
  by_cases hroot : isUsable root = true
  · rw [and_iff_right hroot]
    cases hread : d.read (childPath root projectFile) with
    | error flaw => simp [projectOptions, hroot, hread, HasDefect]
    | ok bytes =>
      cases hs : String.fromUTF8? bytes with
      | none => simp [projectOptions, hroot, hread, hs, HasDefect, Readable]
      | some s =>
        rw [projectOptions_eq hroot hread hs, hasDefect_optionsOf_iff]
        simp [Readable, hs]
  · simp [projectOptions, hroot, HasDefect]

theorem ForgivesProject.of_held (hfs : d.HoldsOptions maxDepth root fs)
    (h : d.projectOptions maxDepth root = .ok fs) : d.ForgivesProject maxDepth root where
  returned := ⟨fs, h⟩
  held := by
    obtain ⟨bytes, hread, s, hs, hv⟩ := hfs
    rintro fs' ⟨bytes', hread', s', hs', hv'⟩
    cases hread.symm.trans hread'
    cases hs.symm.trans hs'
    cases hv.symm.trans hv'
    exact h
  otherwise hno := absurd ⟨fs, hfs⟩ hno

theorem ForgivesProject.of_none (hno : ¬ ∃ fs, d.HoldsOptions maxDepth root fs)
    (h : d.projectOptions maxDepth root = .ok []) : d.ForgivesProject maxDepth root :=
  ⟨⟨[], h⟩, fun fs hfs => absurd ⟨fs, hfs⟩ hno, fun _ => h⟩

theorem forgivesProject_of_not_hasDefect (h : ¬ HasDefect (d.projectOptions maxDepth root)) :
    d.ForgivesProject maxDepth root := by
  obtain ⟨hroot, hfile⟩ := not_hasDefect_projectOptions_iff.mp h
  cases hread : d.read (childPath root projectFile) with
  | error flaw =>
    have hnone : d.projectOptions maxDepth root = .ok [] := by
      simp only [projectOptions, hroot, hread, Bool.not_true, Bool.false_eq_true, if_false]
    refine .of_none ?_ hnone
    rintro ⟨fs, bytes, hbytes, _⟩
    cases hread.symm.trans hbytes
  | ok bytes =>
    obtain ⟨s, hs, _⟩ := hfile bytes hread
    have hoptions : d.projectOptions maxDepth root = _ := projectOptions_eq hroot hread hs
    rw [hoptions] at h
    rcases optionsOf_cases h with ⟨fs, hfs, heq⟩ | ⟨hno, heq⟩
    · exact .of_held ((holdsOptions_iff hread hs).mpr hfs) (hoptions.trans heq)
    · refine .of_none ?_ (hoptions.trans heq)
      rintro ⟨fs, hfs⟩
      exact hno ⟨fs, (holdsOptions_iff hread hs).mp hfs⟩

end File

/-- At a defect in the options of the project a run is cut off, with nothing written. -/
theorem exists_cutOff_of_projectOptions {host : Command.Host} {o : Command.Options} {d : Disk}
    (h : HasDefect (d.projectOptions host.optionsDepth o.root)) :
    ∃ e, Command.report host o d = ⟨.cutOff e, "", "", d⟩ := by
  obtain ⟨e, he⟩ := h
  by_cases hpaths : (!o.paths.all isUsable) = true
  · exact ⟨.nullInPath, if_pos hpaths⟩
  · have hload : o.load host d = .error (.defect e) := by
      rw [Command.Options.load, wholeOptions, he]
      rfl
    refine ⟨e, ?_⟩
    rw [Command.report, if_neg hpaths, hload]
    rfl

/-- Options are found whatever the file is exactly if its bytes are UTF-8 and keep to the limits of the
reader; else every run there is cut off. -/
theorem forgivesProject_iff (maxDepth : Nat) (d : Disk) (root : String) :
    (d.ForgivesProject maxDepth root ↔ isUsable root = true ∧
      ∀ bytes, d.read (childPath root projectFile) = .ok bytes → Readable maxDepth bytes) ∧
    ∀ (host : Command.Host) (o : Command.Options), host.optionsDepth = maxDepth → o.root = root →
      d.ForgivesProject maxDepth root ∨ ∃ e, Command.report host o d = ⟨.cutOff e, "", "", d⟩ := by
  constructor
  · rw [← not_hasDefect_projectOptions_iff]
    refine ⟨?_, forgivesProject_of_not_hasDefect⟩
    rintro ⟨⟨fs, hfs⟩, _, _⟩
    rw [hfs]
    exact not_hasDefect_ok fs
  · rintro host o rfl rfl
    by_cases h : HasDefect (d.projectOptions host.optionsDepth o.root)
    · exact Or.inr (exists_cutOff_of_projectOptions h)
    · exact Or.inl (forgivesProject_of_not_hasDefect h)

def oneStyle : String :=
  "\x7b\"style\":\"json\"\x7d"

def oneFile (bytes : ByteArray) : Disk :=
  ⟨[([projectFile.toList], .file bytes)]⟩

/-- An object with one option is found. -/
theorem oneStyle_forgivesProject : (oneFile oneStyle.toUTF8).ForgivesProject 1 "." ∧
    ((oneFile oneStyle.toUTF8).projectOptions 1 ".").toOption.map (Json.shown ∘ .obj) =
      some "\x7b'style': 'json'\x7d" := by
  have hread : (oneFile oneStyle.toUTF8).read (childPath "." projectFile) = .ok oneStyle.toUTF8 := rfl
  have hs : String.fromUTF8? oneStyle.toUTF8 = some oneStyle := by decide +kernel
  have hv : (Json.read 1 oneStyle).toOption.isSome := by decide +kernel
  refine ⟨(forgivesProject_iff 1 _ ".").1.mpr ⟨by decide, ?_⟩, by decide +kernel⟩
  intro bytes hbytes
  rw [hread] at hbytes
  obtain rfl := Except.ok.inj hbytes
  refine ⟨oneStyle, hs, ?_⟩
  intro flaw hflaw
  rw [hflaw] at hv
  cases hv

/-- A file of one stray byte is not forgiven, however deep the reader goes. -/
theorem not_forall_forgivesProject : ¬ ∃ maxDepth, ∀ (d : Disk) (root : String),
    isUsable root = true → d.ForgivesProject maxDepth root := by
  rintro ⟨maxDepth, h⟩
  obtain ⟨fs, hfs⟩ := (h (oneFile strayByte) "." rfl).returned
  have hread : (oneFile strayByte).read (childPath "." projectFile) = .ok strayByte := rfl
  have hroot : isUsable "." = true := rfl
  simp only [projectOptions, hroot, hread, fromUTF8?_strayByte, Bool.not_true, Bool.false_eq_true,
    if_false] at hfs
  cases hfs

end Disk
end AuditReport
