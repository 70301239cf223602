/-!
# Labels

* `Labels α`: objects by their labels, in the order in which the labels were first given.
* `Aliases`: short names that stand for longer texts wherever they occur.
-/

namespace Sluice.Script

/-- Objects by their labels. -/
abbrev Labels (α : Type) := List (String × α)

namespace Labels

variable {α : Type}

/-- The object of a label. -/
def get? (t : Labels α) (label : String) : Option α := List.lookup label t

/-- The labels after one has been given to an object. -/
def give (t : Labels α) (label : String) (a : α) : Labels α :=
  if (t.get? label).isSome then t.map fun x => if x.1 = label then (label, a) else x
  else t ++ [(label, a)]

/-- The labels without one of them. -/
def forget (t : Labels α) (label : String) : Labels α := t.filter fun x => x.1 ≠ label

end Labels

/-- Texts, and what stands for each. -/
abbrev Aliases := List (List Char × List Char)

namespace Aliases

/-- Gives a text an alias, unless it has one. -/
def add (a : Aliases) (long short : String) : Aliases :=
  if a.any fun x => x.1 = long.toList then a else a ++ [(long.toList, short.toList)]

/-- The alias at the beginning of a text, with the length of what it stands for. -/
def first? (a : Aliases) (s : List Char) : Option (Nat × List Char) :=
  (a.find? fun x => x.1.isPrefixOf s).map fun x => (x.1.length, x.2)

/-- Puts the aliases into a text; `skip` characters belong to one that has been put already. -/
def applyFrom (a : Aliases) : Nat → List Char → List Char
  | _, [] => []
  | skip + 1, _ :: cs => applyFrom a skip cs
  | 0, c :: cs =>
    match a.first? (c :: cs) with
    | some (n, short) => short ++ applyFrom a (n - 1) cs
    | none => c :: applyFrom a 0 cs

/-- Puts the aliases into a text. -/
def apply (a : Aliases) (s : String) : String := String.ofList (applyFrom a 0 s.toList)

end Aliases

end Sluice.Script
