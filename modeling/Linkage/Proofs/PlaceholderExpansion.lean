import Linkage.Pom.Placeholder
import Linkage.Proofs.DescriptorGrammar

/-!
What the placeholders of a text stand for.

A text is made of placeholders and of characters other than the dollar sign, and so are the values
of the properties that it leads to. In its expansion, the expansion of the value stands in the place
of every placeholder of a known property. One round of replacement takes one level of values away,
and a round that changes nothing had nothing to take away. So as many rounds as there are levels
give the expansion, and ending before, where nothing is left to replace, gives the same.
-/

set_option autoImplicit false

namespace Linkage

namespace Placeholder

/-! ## Texts with placeholders -/

structure PropertyName where
  text : List Char
  nonempty : text ≠ []
  /-- The closing brace ends the placeholder. -/
  unended : '\x7d' ∉ text

inductive Piece where
  | literal (c : Char) (plain : c ≠ '$')
  | placeholder (name : PropertyName)

def Piece.text : Piece → List Char
  | literal c _ => [c]
  | placeholder name => written name.text

def textOf (pieces : List Piece) : List Char := pieces.flatMap Piece.text

private theorem textOf_append (pieces more : List Piece) :
    textOf (pieces ++ more) = textOf pieces ++ textOf more := by
  simp [textOf]

theorem textOf_placeholder (name : PropertyName) (rest : List Piece) :
    textOf (.placeholder name :: rest) = written name.text ++ textOf rest := by
  simp [textOf, Piece.text]

theorem written_append (name rest : List Char) :
    written name ++ rest = '$' :: '\x7b' :: (name ++ '\x7d' :: rest) := by
  simp [written]

/-- A text is written in one way only. -/
theorem textOf_injective : Function.Injective textOf := by
  intro pieces
  induction pieces with
  | nil =>
    intro others same
    cases others with
    | nil => rfl
    | cons first rest => cases first <;> cases same
  | cons first rest ih =>
    intro others same
    cases others with
    | nil => cases first <;> cases same
    | cons first' rest' =>
      cases first with
      | literal c plain =>
        cases first' with
        | literal c' plain' =>
          obtain ⟨rfl, tails⟩ := List.cons.inj same
          rw [ih tails]
        | placeholder name => exact absurd (List.cons.inj same).1 plain
      | placeholder name =>
        cases first' with
        | literal c plain => exact absurd (List.cons.inj same).1.symm plain
        | placeholder name' =>
          rw [textOf_placeholder, textOf_placeholder, written_append, written_append] at same
          have cuts := congrArg (fun cs => Text.splitOnce (· == '\x7d') (cs.drop 2)) same
          simp only [List.drop_succ_cons, List.drop_zero, Text.splitOnce_append name.unended,
            Text.splitOnce_append name'.unended, Option.some.injEq, Prod.mk.injEq] at cuts
          obtain ⟨texts, tails⟩ := cuts
          cases name
          cases name'
          cases texts
          rw [ih tails]

/-! ## Expansion -/

/-- The expansion of a text whose placeholders lead through at most a number of levels of values.
Placeholders of unknown properties stay as they are written. -/
inductive Expands (properties : Properties) : Nat → List Piece → List Char → Prop where
  | nil {levels : Nat} : Expands properties levels [] []
  | literal {levels : Nat} {c : Char} {plain : c ≠ '$'} {rest : List Piece}
      {expansion : List Char} (later : Expands properties levels rest expansion) :
      Expands properties levels (.literal c plain :: rest) (c :: expansion)
  | undefined {levels : Nat} {name : PropertyName} {rest : List Piece} {expansion : List Char}
      (unknown : value? properties name.text = none)
      (later : Expands properties levels rest expansion) :
      Expands properties levels (.placeholder name :: rest) (written name.text ++ expansion)
  | defined {levels : Nat} {name : PropertyName} {value rest : List Piece}
      {inner expansion : List Char} (known : value? properties name.text = some (textOf value))
      (within : Expands properties levels value inner)
      (later : Expands properties (levels + 1) rest expansion) :
      Expands properties (levels + 1) (.placeholder name :: rest) (inner ++ expansion)

variable {properties : Properties} {levels : Nat} {pieces : List Piece} {expansion : List Char}

theorem Expands.append {more : List Piece} {furtherExpansion : List Char}
    (first : Expands properties levels pieces expansion)
    (second : Expands properties levels more furtherExpansion) :
    Expands properties levels (pieces ++ more) (expansion ++ furtherExpansion) := by
  induction first with
  | nil => exact second
  | literal _ ih => exact .literal (ih second)
  | undefined unknown _ ih =>
    rw [List.append_assoc]
    exact .undefined unknown (ih second)
  | defined known within _ _ ih =>
    rw [List.append_assoc]
    exact .defined known within (ih second)

private theorem Expands.eq_text (expands : Expands properties 0 pieces expansion) :
    expansion = textOf pieces := by
  generalize none : 0 = levels at expands
  induction expands with
  | nil => rfl
  | literal _ ih => rw [ih none]; rfl
  | undefined _ _ ih => rw [ih none]; rfl
  | defined => cases none

/-! ## Rounds of replacement -/

private theorem replaceRound_literal {c : Char} (plain : c ≠ '$') (rest : List Char) :
    replaceRound properties (c :: rest) = c :: replaceRound properties rest := by
  rw [replaceRound]
  intro _ dollar
  exact absurd dollar plain

private theorem replaceRound_placeholder (name : PropertyName) (rest : List Char) :
    replaceRound properties (written name.text ++ rest) =
      (value? properties name.text).getD (written name.text) ++ replaceRound properties rest := by
  have nonempty : name.text.isEmpty = false := by simp [name.nonempty]
  rw [written_append, replaceRound]
  split
  · next uncut =>
    rw [Text.splitOnce_append name.unended] at uncut
    cases uncut
  · next cut =>
    rw [Text.splitOnce_append name.unended] at cut
    cases cut
    rw [nonempty, if_neg Bool.false_ne_true]

/-- A round takes the outermost level of values away. -/
theorem Expands.round (expands : Expands properties levels pieces expansion) :
    ∃ replaced, replaceRound properties (textOf pieces) = textOf replaced ∧
      Expands properties (levels - 1) replaced expansion := by
  induction expands with
  | nil => exact ⟨[], by rw [textOf, List.flatMap_nil, replaceRound], .nil⟩
  | @literal levels c plain rest expansion _ ih =>
    obtain ⟨replaced, same, expands⟩ := ih
    refine ⟨.literal c plain :: replaced, ?_, .literal expands⟩
    exact (replaceRound_literal plain _).trans (congrArg (c :: ·) same)
  | @undefined levels name rest expansion unknown _ ih =>
    obtain ⟨replaced, same, expands⟩ := ih
    refine ⟨.placeholder name :: replaced, ?_, .undefined unknown expands⟩
    rw [textOf_placeholder, textOf_placeholder, replaceRound_placeholder, unknown,
      Option.getD_none, same]
  | @defined levels name value rest inner expansion known within _ _ ih =>
    obtain ⟨replaced, same, expands⟩ := ih
    refine ⟨value ++ replaced, ?_, within.append expands⟩
    rw [textOf_placeholder, replaceRound_placeholder, known, Option.getD_some, same, textOf_append]

/-- Where a round changes nothing, nothing is left to expand. -/
theorem Expands.eq_text_of_fixed (expands : Expands properties levels pieces expansion)
    (fixed : replaceRound properties (textOf pieces) = textOf pieces) :
    expansion = textOf pieces := by
  induction levels with
  | zero => exact expands.eq_text
  | succ levels ih =>
    obtain ⟨replaced, same, expands⟩ := expands.round
    rw [textOf_injective (same.symm.trans fixed)] at expands
    exact ih expands

/-- Where no placeholder begins, nothing is left to expand. -/
theorem Expands.eq_text_of_unmarked (expands : Expands properties levels pieces expansion)
    (unmarked : Text.containsPart ['$', '\x7b'] (textOf pieces) = false) :
    expansion = textOf pieces := by
  induction expands with
  | nil => rfl
  | @literal levels c plain rest expansion _ ih =>
    have later := (Bool.or_eq_false_iff.1 unmarked).2
    exact congrArg (c :: ·) (ih later)
  | undefined => cases unmarked
  | defined => cases unmarked

theorem Expands.replaceRounds {rounds : Nat} (expands : Expands properties levels pieces expansion)
    (enough : levels ≤ rounds) :
    replaceRounds properties rounds (textOf pieces) = expansion := by
  induction rounds generalizing levels pieces with
  | zero =>
    obtain rfl := Nat.le_zero.1 enough
    exact expands.eq_text.symm
  | succ rounds ih =>
    rw [Placeholder.replaceRounds]
    split
    · obtain ⟨replaced, same, further⟩ := expands.round
      dsimp only
      split
      · next unchanged => exact (expands.eq_text_of_fixed (beq_iff_eq.1 unchanged)).symm
      · rw [same]
        exact ih further (by omega)
    · next unmarked => exact (expands.eq_text_of_unmarked (by simpa using unmarked)).symm

/-- The placeholders of a text are replaced by what they stand for, if they lead through at most
eight levels of values. Not only the text but also the values of the properties that it leads to
must be made of pieces, that is, a dollar sign stands in them only where a placeholder starts. -/
theorem expand_recursive {text : String} (reads : textOf pieces = text.toList)
    (expands : Expands properties levels pieces expansion) (few : levels ≤ 8) :
    expand properties text = String.ofList expansion := by
  have enough : levels ≤ maxRounds := few
  rw [expand, ← reads, expands.replaceRounds enough]

/-! ## Lookups

Only the values of properties matter, and not how their table came about. -/

section Lookups

variable {properties other : Properties}
  (same : ∀ name, Ordered.get? properties name = Ordered.get? other name)

include same

private theorem value?_congr : value? properties = value? other := by
  funext name
  rw [value?, value?, same]

private theorem replaceRound_congr (cs : List Char) :
    replaceRound properties cs = replaceRound other cs := by
  fun_induction replaceRound properties cs with
  | case1 => rw [replaceRound]
  | case2 rest uncut =>
    rw [replaceRound]
    split
    · rfl
    · next cut => rw [uncut] at cut; cases cut
  | case3 rest name after cut empty ih =>
    rw [replaceRound]
    split
    · next uncut => rw [cut] at uncut; cases uncut
    · next cut' =>
      rw [cut] at cut'
      cases cut'
      rw [if_pos empty, ih]
  | case4 rest name after cut nonempty ih =>
    rw [replaceRound]
    split
    · next uncut => rw [cut] at uncut; cases uncut
    · next cut' =>
      rw [cut] at cut'
      cases cut'
      rw [if_neg nonempty, ih, value?_congr same]
  | case5 c rest notStart ih =>
    rw [replaceRound, ih]
    exact notStart

private theorem replaceRounds_congr (rounds : Nat) (cs : List Char) :
    replaceRounds properties rounds cs = replaceRounds other rounds cs := by
  induction rounds generalizing cs with
  | zero => rfl
  | succ rounds ih => simp only [replaceRounds, replaceRound_congr same, ih]

theorem expand_congr : expand properties = expand other := by
  funext text
  rw [expand, expand, replaceRounds_congr same]

end Lookups

namespace Sample

/-- The placeholder of a property whose name is a letter. -/
def leadsTo (c : Char) (letter : '\x7d' ∉ [c]) : List Piece :=
  [.placeholder ⟨[c], List.cons_ne_nil _ _, letter⟩]

/-- Eight properties, of which each but the last leads to the next one. Nothing is known of `x`. -/
def chain : Properties := [
  ("a", "$\x7bb\x7d"), ("b", "$\x7bc\x7d"), ("c", "$\x7bd\x7d"), ("d", "$\x7be\x7d"),
  ("e", "$\x7bf\x7d"), ("f", "$\x7bg\x7d"), ("g", "$\x7bh\x7d"), ("h", "1$\x7bx\x7d")]

def last : List Piece := .literal '1' (by decide) :: leadsTo 'x' (by decide)

theorem expands_leadsTo {c : Char} (letter : '\x7d' ∉ [c]) (value : List Piece)
    (known : value? properties [c] = some (textOf value))
    (within : Expands properties levels value expansion) :
    Expands properties (levels + 1) (leadsTo c letter) expansion := by
  rw [← List.append_nil expansion]
  exact .defined known within .nil

private theorem expands_last : Expands chain levels last "1$\x7bx\x7d".toList :=
  .literal (.undefined (by decide) .nil)

theorem expand_eight_levels :
    Expands chain 8 (leadsTo 'a' (by decide)) "1$\x7bx\x7d".toList ∧
      expand chain "$\x7ba\x7d" = "1$\x7bx\x7d" := by
  have expands : Expands chain 8 (leadsTo 'a' (by decide)) "1$\x7bx\x7d".toList := by
    apply expands_leadsTo _ (leadsTo 'b' (by decide)) (by decide)
    apply expands_leadsTo _ (leadsTo 'c' (by decide)) (by decide)
    apply expands_leadsTo _ (leadsTo 'd' (by decide)) (by decide)
    apply expands_leadsTo _ (leadsTo 'e' (by decide)) (by decide)
    apply expands_leadsTo _ (leadsTo 'f' (by decide)) (by decide)
    apply expands_leadsTo _ (leadsTo 'g' (by decide)) (by decide)
    apply expands_leadsTo _ (leadsTo 'h' (by decide)) (by decide)
    exact expands_leadsTo _ last (by decide) expands_last
  have expanded : expand chain "$\x7ba\x7d" = _ := expand_recursive rfl expands (Nat.le_refl 8)
  exact ⟨expands, expanded.trans String.ofList_toList⟩

end Sample

end Placeholder

end Linkage
