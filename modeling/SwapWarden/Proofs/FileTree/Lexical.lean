import SwapWarden.Proofs.FileTree.Overwrite

/-!
# Where a path leads by its names alone

A tree has no links, so the place that a path leads to is told by the names of
the path, whatever stands in the tree.  From a place a path may climb and come
down again; how far it climbs above its start does not depend on where it
starts, nor do the names by which it then comes down.
-/

namespace SwapWarden.FileTree

variable {tree : FileTree} {here place : Location}

/-- The place that the names lead to from a place. -/
def lexical (here : Location) : List String → Location
  | [] => here
  | name :: rest =>
      if name == "" || name == "." then lexical here rest
      else if name == ".." then lexical here.dropLast rest
      else lexical (here ++ [name]) rest

/-- The place that a path leads to by its names. -/
def lexicalPlace (path : String) : Location :=
  lexical [] (pathNames path)

/-- How far the names climb above the place that they start from. -/
def climb : List String → Nat
  | [] => 0
  | name :: rest =>
      if name == "" || name == "." then climb rest
      else if name == ".." then climb rest + 1
      else climb rest - 1

/-- The names come back to the place that they start from, if they leave it. -/
def Returns (here : Location) (names : List String) : Prop :=
  here.drop (here.length - climb names) <+: lexical [] names

theorem lexical_append (here : Location) (front names : List String) :
    lexical here (front ++ names) = lexical (lexical here front) names := by
  induction front generalizing here with
  | nil => rfl
  | cons name front induction =>
      rw [List.cons_append, lexical, lexical]
      split
      · exact induction here
      · split
        · exact induction here.dropLast
        · exact induction (here ++ [name])

theorem lexical_of_walk {entry found : FileEntry} {names : List String}
    (leads : tree.walk here entry names = .ok (place, found)) :
    place = lexical here names := by
  induction names generalizing here entry with
  | nil =>
      cases leads
      rfl
  | cons name rest induction =>
      rw [walk] at leads
      rw [lexical]
      split at leads
      · split at leads
        · rename_i stays
          rw [if_pos stays]
          exact induction leads
        · rename_i goes
          rw [if_neg goes]
          split at leads
          · rename_i rises
            rw [if_pos rises]
            exact induction leads
          · rename_i descends
            rw [if_neg descends]
            split at leads
            · cases leads
            · split at leads
              · exact induction leads
              · cases leads
      · cases leads

theorem lexicalPlace_of_resolve {path : String} {found : FileEntry}
    (leads : tree.resolve path = .ok (place, found)) :
    place = lexicalPlace path := by
  unfold resolve at leads
  split at leads
  · cases leads
  · split at leads
    · cases leads
    · exact lexical_of_walk leads

theorem lexicalPlace_of_filePlace {path : String}
    (leads : tree.filePlace path = .ok place) : place = lexicalPlace path := by
  unfold filePlace at leads
  split at leads
  · rename_i found
    split at leads
    · cases leads
    · cases leads
      exact lexicalPlace_of_resolve found
  · cases leads

theorem lexicalPlace_joinPath (base : String) {path : String}
    (relative : path.toList.head? ≠ some '/') :
    lexicalPlace (joinPath base path) =
      lexical (lexicalPlace base) (pathNames path) := by
  obtain ⟨before, names, ended⟩ := pathNames_joinPath_relative base relative
  have same : lexicalPlace base = lexical [] before := by
    unfold lexicalPlace
    rcases ended with whole | closed
    · rw [whole]
    · rw [closed, lexical_append]
      rfl
  rw [lexicalPlace, names, lexical_append, same]

theorem lexical_trimStart (here : Location) (text : List Char) :
    lexical here (pathNames (String.ofList (Text.trimStart (· == '/') text))) =
      lexical here (pathNames (String.ofList text)) := by
  induction text with
  | nil => rfl
  | cons char rest induction =>
      unfold Text.trimStart at induction ⊢
      by_cases cut : char = '/'
      · subst cut
        rw [List.dropWhile_cons_of_pos rfl, induction]
        have names : pathNames (String.ofList ('/' :: rest)) =
            "" :: pathNames (String.ofList rest) := by
          simp [pathNames, Text.splitAt]
        rw [names]
        rfl
      · rw [List.dropWhile_cons_of_neg (by simpa using cut)]

/-! ## Climbing -/

theorem take_concat (here : Location) (name : String) (height : Nat) :
    (here ++ [name]).take (here.length + 1 - height) =
      here.take (here.length - (height - 1)) ++ [name].take (1 - height) := by
  have first : here.length + 1 - height - here.length = 1 - height := by omega
  rw [List.take_append, first, List.append_left_inj, List.take_eq_take_iff]
  omega

/-- What is left of the place after the climb, and the names by which the path
comes down from there. -/
theorem lexical_eq (here : Location) (names : List String) :
    lexical here names =
      here.take (here.length - climb names) ++ lexical [] names := by
  induction names generalizing here with
  | nil => simp [lexical, climb]
  | cons name rest induction =>
      rw [lexical, lexical, climb]
      split
      · exact induction here
      · split
        · rw [induction here.dropLast, List.length_dropLast,
            List.dropLast_eq_take, List.take_take]
          congr 2
          omega
        · rw [induction (here ++ [name]), induction ([] ++ [name]),
            ← List.append_assoc, List.length_append, List.length_singleton,
            take_concat]
          rfl

/-- Names lead to a place below their start exactly when they return to it. -/
theorem isPrefix_lexical_iff (here : Location) (names : List String) :
    here <+: lexical here names ↔ Returns here names := by
  let left := here.length - climb names
  have parts : here.take left ++ here.drop left = here :=
    List.take_append_drop left here
  calc here <+: lexical here names
    _ ↔ here.take left ++ here.drop left <+:
        here.take left ++ lexical [] names := by rw [parts, lexical_eq]
    _ ↔ Returns here names := List.prefix_append_right_inj _

theorem returns_of_climb_eq_zero {names : List String}
    (stays : climb names = 0) : Returns here names := by
  unfold Returns
  rw [stays, Nat.sub_zero, List.drop_length]
  exact List.nil_prefix

end SwapWarden.FileTree
