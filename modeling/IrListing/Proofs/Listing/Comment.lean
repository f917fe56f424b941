import IrListing.Proofs.Listing.Places
import IrListing.Proofs.Metadata.Written

namespace IrListing

open Text

namespace Metadata

theorem told_cons {c : Char} (h : isWord c = false) (other : c ≠ ')') (t : Text) :
    told (c :: t) = told t := by
  rw [told, told, beforeLast?]
  cases beforeLast? ')' t with
  | none => simp [other]
  | some between => simp [options_skip h]

theorem told_comment (comment : Text) : told (" ; ".toList ++ comment) = told comment := by
  have space : isWord ' ' = false := by decide
  have semicolon : isWord ';' = false := by decide
  change told (' ' :: ';' :: ' ' :: comment) = told comment
  rw [told_cons space (by decide), told_cons semicolon (by decide), told_cons space (by decide)]

namespace Written

variable (d : Written)

def commented (comment : Text) : Text := d.text ++ " ; ".toList ++ comment

/-- If the comment says anything about the key, then what the declaration says last about it. -/
def Repeats (comment key : Text) : Prop :=
  ∀ value, (told comment).reverse.lookup key = some value →
    d.entries.reverse.lookup key = some value

theorem declaration?_text :
    declaration? d.text = some ⟨d.id, d.kind.text, Assoc.ofList d.entries⟩ := by
  have read := d.declaration?_eq (List.not_mem_nil : ')' ∉ [])
  rwa [List.append_nil] at read

theorem declaration?_commented {comment : Text} (oneLine : '\n' ∉ comment) :
    declaration? (d.commented comment) =
      some ⟨d.id, d.kind.text, Assoc.ofList (d.entries ++ told comment)⟩ := by
  have joint : '\n' ∉ " ; ".toList := by decide
  have line : (" ; ".toList ++ comment).takeWhile (· ≠ '\n') = " ; ".toList ++ comment :=
    List.takeWhile_eq_self_iff.2 (all_ne_of_not_mem (List.not_mem_append joint oneLine))
  rw [commented, List.append_assoc, d.declaration?_append, line, told_comment]

end Written

end Metadata

namespace Listing

open Metadata Source

theorem locate_declarations_congr {line line' : Text} {n n' : Node}
    (read : declaration? line = some n) (read' : declaration? line' = some n')
    (sameId : n.id = n'.id) (same : SamePlace n n') (before behind : List Text) (scope : Text) :
    (declarations (before ++ line :: behind)).locate scope =
      (declarations (before ++ line' :: behind)).locate scope := by
  apply Graph.locate_congr
  intro step hstep id
  have here : ((declaration? line).filter (·.id = id)).map step =
      ((declaration? line').filter (·.id = id)).map step := by
    rw [read, read', Option.filter_some, Option.filter_some, sameId]
    split
    · rw [Option.map_some, Option.map_some, same.step_eq step hstep]
    · rfl
  simp only [get?_declarations, lastDeclaration?_append, lastDeclaration?, Option.map_or, here]

/-- A comment leaves the attributes as they are exactly when all that it says, up to its last
closing parenthesis, repeats them, and no place changes while it repeats those that places are
read from. -/
theorem commented_iff (d : Written) {comment : Text} (oneLine : '\n' ∉ comment) :
    (declaration? (d.commented comment) = declaration? d.text ↔ ∀ key, d.Repeats comment key) ∧
      ((∀ key ∈ placeKeys, d.Repeats comment key) → ∀ before behind scope,
        (declarations (before ++ d.commented comment :: behind)).locate scope =
          (declarations (before ++ d.text :: behind)).locate scope) := by
  have read := d.declaration?_commented oneLine
  constructor
  · rw [read, d.declaration?_text]
    simp only [Option.some.injEq, Node.mk.injEq, true_and, Assoc.ofList_append_eq_iff]
    rfl
  · intro repeats before behind scope
    apply locate_declarations_congr read d.declaration?_text rfl
    intro key hkey
    exact Assoc.get?_ofList_append_eq_iff.2 (repeats key hkey)

def moved : Written where
  digits := ⟨"1".toList, by decide, by decide⟩
  distinct := false
  kind := ⟨"File".toList, by decide, by decide⟩
  settings := [⟨⟨"filename".toList, by decide, by decide⟩, .quoted "b.c".toList (by decide)⟩]

def stillNamed : Text := "still (filename: \"b.c\")".toList

theorem moved_again :
    '\n' ∉ stillNamed ∧ (∀ key, moved.Repeats stillNamed key) ∧
      moved.commented stillNamed =
        "!1 = !DIFile(filename: \"b.c\") ; still (filename: \"b.c\")".toList ∧
      declaration? (moved.commented stillNamed) = declaration? moved.text ∧
      ∀ before behind scope,
        (declarations (before ++ moved.commented stillNamed :: behind)).locate scope =
          (declarations (before ++ moved.text :: behind)).locate scope := by
  have oneLine : '\n' ∉ stillNamed := by decide
  have said : told stillNamed = [("filename".toList, "b.c".toList)] := by decide +kernel
  have repeats : ∀ key, moved.Repeats stillNamed key := by
    intro key value later
    rw [said, List.reverse_singleton, List.lookup_cons] at later
    split at later
    · rename_i same
      rw [eq_of_beq same, ← later]
      decide +kernel
    · cases later
  have ⟨attributes, places⟩ := commented_iff moved oneLine
  exact ⟨oneLine, repeats, by decide +kernel, attributes.2 repeats,
    places fun key _ => repeats key⟩

def formerlyNamed : Text := "formerly (filename: \"a.c\")".toList

theorem moved_back :
    '\n' ∉ formerlyNamed ∧
      moved.commented formerlyNamed =
        "!1 = !DIFile(filename: \"b.c\") ; formerly (filename: \"a.c\")".toList ∧
      declaration? (moved.commented formerlyNamed) ≠ declaration? moved.text ∧
      (declarations [moved.commented formerlyNamed]).locate "!1".toList =
        ⟨some "a.c".toList, none, none⟩ ∧
      (declarations [moved.text]).locate "!1".toList = ⟨some "b.c".toList, none, none⟩ := by
  decide +kernel

end Listing

end IrListing
