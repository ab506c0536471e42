import AuditReport.Json.Basic

/-!
# Checking documents against records

A decoder takes a value to a record or to complaints. It does not stop at the first complaint:
those of all parts are collected, in the order of the parts, each with the path to the value that
is at fault.
-/
namespace AuditReport.Decode

inductive Step where
  | key (name : String)
  | item (n : Int)
  deriving DecidableEq, Repr, Inhabited

inductive Code where
  | missing
  | notModel
  | notText
  | notInteger
  | unreadableInteger
  | oversizedInteger
  | fractionalInteger
  | notFinite
  | notTruth
  | unreadableTruth
  | notList
  | notTuple
  | notObject
  | notLiteral
  deriving DecidableEq, Repr, Inhabited

structure Complaint where
  path : List Step
  code : Code
  deriving DecidableEq, Repr, Inhabited

def Complaint.under (s : Step) (c : Complaint) : Complaint :=
  { c with path := s :: c.path }

/-- A decoded value, or the complaints about it. -/
inductive Checked (α : Type) where
  | ok (a : α)
  | bad (complaints : List Complaint)
  deriving Repr, Inhabited

namespace Checked

variable {α β : Type}

def map (f : α → β) : Checked α → Checked β
  | ok a => ok (f a)
  | bad cs => bad cs

/-- Applies a decoded function to a decoded value; the complaints of both are kept. -/
def ap : Checked (α → β) → Checked α → Checked β
  | ok f, x => x.map f
  | bad cs, ok _ => bad cs
  | bad cs, bad ds => bad (cs ++ ds)

instance : Functor Checked := ⟨map, fun a x => map (fun _ => a) x⟩

instance : Pure Checked := ⟨ok⟩

instance : Seq Checked := ⟨fun f x => ap f (x ())⟩

def fail (code : Code) : Checked α :=
  bad [⟨[], code⟩]

/-- The same outcome, with every path led through one more step. -/
def under (s : Step) : Checked α → Checked α
  | ok a => ok a
  | bad cs => bad (cs.map (Complaint.under s))

def items (d : Json → Checked α) : (start : Nat) → List Json → Checked (List α)
  | _, [] => ok []
  | n, v :: vs => List.cons <$> (d v).under (.item n) <*> items d (n + 1) vs

def values (d : Json → Checked α) : Json.Fields → Checked (Table α)
  | [] => ok []
  | (k, v) :: fs => (fun a t => (k, a) :: t) <$> (d v).under (.key k) <*> values d fs

@[simp] theorem map_eq (f : α → β) (x : Checked α) : f <$> x = x.map f := rfl

@[simp] theorem seq_eq (f : Checked (α → β)) (x : Checked α) : f <*> x = f.ap x := rfl

end Checked
end AuditReport.Decode
