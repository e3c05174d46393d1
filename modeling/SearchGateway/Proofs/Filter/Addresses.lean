import Mathlib.Data.List.TakeWhile
import Mathlib.Data.Set.Card
import SearchGateway.Proofs.Filter.Rejection
import SearchGateway.Proofs.Filter.Values

/-!
# Where the conditions of an expression stand

The notation has groups at one level only, but the type of expressions has them at every depth, and
the check of values and the count of conditions go down as far as there are any. An `Address` is the
way down to a condition: the position of a member of the expression, and for each group on the way
its combinator and a position in it. `Expression.HasAt` says, without a traversal, which condition
stands at which address.

Three facts about the list that the check goes through (`Expression.placed`) carry the result: it
holds the condition of each address (`Expression.mem_placed_iff`), it is sorted by the positions on
the way down (`Expression.pairwise_placed`), and it is as long as the count says
(`Expression.length_placed`). The first misfit is thus the one of the least address
(`find?_placed_eq_some_iff`). As a path is spelt differently for each address
(`Address.text_injective`), nothing is told twice.
-/

namespace SearchGateway

/-- The position that a step leads to, in a list. -/
def Step.position? : Step → Option Nat
  | .key _ => none
  | .position i => some i

/-- The positions on a path. -/
def Path.positions (path : Path) : List Nat := path.filterMap Step.position?

@[simp] theorem Path.positions_append (path rest : Path) :
    positions (path ++ rest) = path.positions ++ rest.positions := List.filterMap_append

@[simp] theorem Path.positions_key (name : String) (rest : Path) :
    positions (.key name :: rest) = rest.positions := rfl

@[simp] theorem Path.positions_position (i : Nat) (rest : Path) :
    positions (.position i :: rest) = i :: rest.positions := rfl

namespace Filter

/-- The way down from a member: the combinator of each group, and a position in the group. -/
abbrev Way := List (Combinator × Nat)

namespace Way

/-- The way down as the end of a path. -/
def steps (way : Way) : Path := way.flatMap fun turn => [.key turn.1.name, .position turn.2]

/-- The way down as messages spell it. -/
def text (way : Way) : String :=
  String.join (way.map fun turn => "." ++ turn.1.name ++ "[" ++ toString turn.2 ++ "]")

theorem steps_cons (turn : Combinator × Nat) (way : Way) :
    steps (turn :: way) = .key turn.1.name :: .position turn.2 :: steps way := rfl

theorem text_cons (turn : Combinator × Nat) (way : Way) :
    text (turn :: way) = "." ++ turn.1.name ++ "[" ++ toString turn.2 ++ "]" ++ text way :=
  String.join_cons

end Way

/-- Where a condition of an expression stands: at a member, or on a way down from it. -/
structure Address where
  member : Nat
  way : Way

namespace Address

/-- The positions on the way down. -/
def positions (a : Address) : List Nat := a.member :: a.way.map Prod.snd

/-- One address comes before another one, depth first and from left to right: the positions on the
ways down are compared one by one. -/
def Before (a b : Address) : Prop := a.positions < b.positions

/-- An address as a path from the list of members on. -/
def path (a : Address) : Path := currentRoot ++ .position a.member :: a.way.steps

/-- An address as messages spell it. -/
def text (a : Address) : String := "filters[" ++ toString a.member ++ "]" ++ a.way.text

end Address

/-- A condition stands at the end of a way down from a member. -/
inductive Node.HasAt : Node → Way → Condition → Prop where
  | alone (c : Condition) : HasAt (.condition c) [] c
  | inGroup {combinator : Combinator} {members : List Node} {j : Nat} {n : Node} {way : Way}
      {c : Condition} (hmember : members[j]? = some n) (h : HasAt n way c) :
    HasAt (.group combinator members) ((combinator, j) :: way) c

/-- A condition of an expression stands at an address. -/
def Expression.HasAt (e : Expression) (a : Address) (c : Condition) : Prop :=
  ∃ n, e.members[a.member]? = some n ∧ n.HasAt a.way c

/-- The first condition of an expression whose value does not fit, and its address. -/
structure Expression.FirstMisfitAt (e : Expression) (a : Address) (c : Condition) : Prop where
  here : e.HasAt a c
  misfit : c.fits = false
  before : ∀ b c', e.HasAt b c' → b.Before a → c'.fits = true

/-! ## The text of an address -/

section
variable {i j : Nat} {s t : String}

/-- The digits of a position end at the bracket. -/
theorem takeWhile_toDigits (i : Nat) (rest : List Char) :
    (Nat.toDigits 10 i ++ ']' :: rest).takeWhile Char.isDigit = Nat.toDigits 10 i := by
  have hdigits : ∀ c ∈ Nat.toDigits 10 i, c.isDigit = true := by
    intro c hc
    exact Nat.isDigit_of_mem_toDigits (by omega) (by omega) hc
  rw [List.takeWhile_append_of_pos hdigits, List.takeWhile_cons_of_neg (by simp), List.append_nil]

/-- A position in brackets tells the position, whatever follows. -/
theorem bracketed_append_inj (h : "[" ++ toString i ++ "]" ++ s = "[" ++ toString j ++ "]" ++ t) :
    i = j ∧ s = t := by
  have hchars : Nat.toDigits 10 i ++ ']' :: s.toList = Nat.toDigits 10 j ++ ']' :: t.toList := by
    simpa [Nat.toString_eq_repr] using congrArg String.toList h
  have hdigits := congrArg (List.takeWhile Char.isDigit) hchars
  rw [takeWhile_toDigits, takeWhile_toDigits] at hdigits
  have hsame : i = j := by
    rw [← @Nat.ofDigitChars_ten_toDigits i, hdigits, Nat.ofDigitChars_ten_toDigits]
  subst hsame
  refine ⟨rfl, ?_⟩
  simpa [String.toList_inj] using hchars

/-- A combinator tells itself, whatever follows. -/
theorem combinator_append_inj {c c' : Combinator} (h : c.name ++ s = c'.name ++ t) :
    c = c' ∧ s = t := by
  have hchars := congrArg String.toList h
  simp only [String.toList_append] at hchars
  cases c <;> cases c' <;> simp_all [Combinator.name]

/-- A way down into a group is not spelt as none. -/
theorem Way.text_cons_ne (turn : Combinator × Nat) (way : Way) : text (turn :: way) ≠ text [] := by
  intro h
  have hchars := congrArg String.toList h
  simp [text] at hchars

/-- Different ways down are spelt differently. -/
theorem Way.text_injective : Function.Injective Way.text := by
  intro way
  induction way with
  | nil =>
    intro way' h
    cases way' with
    | nil => rfl
    | cons turn rest => exact absurd h.symm (text_cons_ne turn rest)
  | cons turn rest ih =>
    intro way' h
    cases way' with
    | nil => exact absurd h (text_cons_ne turn rest)
    | cons turn' rest' =>
      simp only [text_cons, String.append_assoc, String.append_right_inj] at h
      obtain ⟨hcombinator, hplace⟩ := combinator_append_inj h
      simp only [← String.append_assoc] at hplace
      obtain ⟨hposition, hrest⟩ := bracketed_append_inj hplace
      rw [Prod.ext hcombinator hposition, ih hrest]

/-- Different addresses are spelt differently. -/
theorem Address.text_injective : Function.Injective Address.text := by
  intro a b h
  have hbrackets : "[" ++ toString a.member ++ "]" ++ a.way.text =
      "[" ++ toString b.member ++ "]" ++ b.way.text := by
    simpa [Address.text, String.append_assoc] using h
  obtain ⟨hmember, hway⟩ := bracketed_append_inj hbrackets
  cases a
  cases b
  exact congrArg₂ Address.mk hmember (Way.text_injective hway)

/-- The end of a path is spelt as the way down. -/
theorem Way.join_steps (way : Way) : String.join (way.steps.map Path.stepText) = way.text := by
  induction way with
  | nil => rfl
  | cons turn way ih =>
    rw [steps_cons, text_cons, ← ih]
    simp only [List.map_cons, String.join_cons, Path.stepText, String.append_assoc]

/-- The path of an address is spelt as the address. -/
theorem Address.text_path (a : Address) : a.path.text = a.text := by
  have hroot : currentRoot.text ++ "[" = "filters[" := rfl
  rw [path, Path.text_append (by simp [currentRoot]), List.map_cons, String.join_cons,
    Way.join_steps, Path.stepText, text, ← hroot]
  simp only [String.append_assoc]

/-- Different addresses have different paths. -/
theorem Address.path_injective : Function.Injective Address.path := by
  intro a b h
  apply Address.text_injective
  rw [← a.text_path, ← b.text_path, h]

end

/-! ## The conditions in their order -/

section
variable {n : Node} {way : Way} {c c' : Condition}

/-- The positions of the end of a path are those on the way down. -/
@[simp] theorem Way.positions_steps (way : Way) : way.steps.positions = way.map Prod.snd := by
  induction way with
  | nil => rfl
  | cons turn way ih =>
    rw [steps_cons, Path.positions_key, Path.positions_position, ih, List.map_cons]

/-- Paths of addresses are in the order of the addresses. -/
theorem Address.positions_path_lt_iff {a b : Address} :
    a.path.positions < b.path.positions ↔ a.Before b := by
  have hpositions (a : Address) : a.path.positions = a.positions := by
    simp [path, positions, currentRoot]
  rw [hpositions, hpositions, Before]

/-- One condition stands at the end of a way. -/
theorem Node.HasAt.unique (h : n.HasAt way c) (h' : n.HasAt way c') : c = c' := by
  induction h with
  | alone c => cases h' with | alone => rfl
  | inGroup hmember _ ih =>
    cases h' with
    | inGroup hmember' h' =>
      have hsame := Option.some.inj (hmember.symm.trans hmember')
      subst hsame
      exact ih h'

mutual

/-- The list of a member holds the conditions at the ends of the ways down, each with its path. -/
theorem Node.mem_placed_iff (path : Path) (n : Node) (place : Path × Condition) :
    place ∈ n.placed path ↔ ∃ way, n.HasAt way place.2 ∧ place.1 = path ++ way.steps := by
  cases n with
  | condition c =>
    rw [Node.placed, List.mem_singleton]
    constructor
    · rintro rfl
      exact ⟨[], .alone c, by simp [Way.steps]⟩
    · rintro ⟨way, h, hpath⟩
      cases place
      cases h
      simpa [Way.steps] using hpath
  | group combinator members =>
    rw [Node.placed, mem_placedAmong_iff]
    constructor
    · rintro ⟨j, n, way, hmember, h, hpath⟩
      refine ⟨(combinator, j) :: way, .inGroup hmember h, ?_⟩
      rw [hpath, Nat.zero_add, Way.steps_cons, ← List.append_cons]
    · rintro ⟨way, h, hpath⟩
      cases h with
      | @inGroup _ _ j n way _ hmember h =>
        refine ⟨j, n, way, hmember, h, ?_⟩
        rw [hpath, Nat.zero_add, Way.steps_cons, ← List.append_cons]

/-- The list of several members holds the conditions of all of them. -/
theorem mem_placedAmong_iff (root : Path) (i : Nat) (ns : List Node) (place : Path × Condition) :
    place ∈ placedAmong root i ns ↔ ∃ j n way, ns[j]? = some n ∧ n.HasAt way place.2 ∧
      place.1 = root ++ .position (i + j) :: way.steps := by
  cases ns with
  | nil => simp [placedAmong]
  | cons n ns =>
    rw [placedAmong, List.mem_append, Node.mem_placed_iff, mem_placedAmong_iff]
    constructor
    · rintro (⟨way, h, hpath⟩ | ⟨j, m, way, hm, h, hpath⟩)
      · refine ⟨0, n, way, rfl, h, ?_⟩
        rw [hpath, Nat.add_zero, ← List.append_cons]
      · refine ⟨j + 1, m, way, hm, h, ?_⟩
        rw [hpath, Nat.add_right_comm, Nat.add_assoc]
    · rintro ⟨j, m, way, hm, h, hpath⟩
      cases j with
      | zero =>
        obtain rfl := Option.some.inj hm
        refine .inl ⟨way, h, ?_⟩
        rw [hpath, Nat.add_zero, List.append_cons]
      | succ j =>
        refine .inr ⟨j, m, way, hm, h, ?_⟩
        rw [hpath, Nat.add_right_comm, Nat.add_assoc]

end

mutual

/-- The conditions of a member are listed in the order of the positions on the ways down. -/
theorem Node.pairwise_placed (path : Path) (n : Node) :
    (n.placed path).Pairwise fun x y => x.1.positions < y.1.positions := by
  cases n with
  | condition c => exact List.pairwise_singleton _ _
  | group combinator members => exact pairwise_placedAmong _ 0 members

/-- The conditions of several members are listed in the order of the positions on the ways down. -/
theorem pairwise_placedAmong (root : Path) (i : Nat) (ns : List Node) :
    (placedAmong root i ns).Pairwise fun x y => x.1.positions < y.1.positions := by
  cases ns with
  | nil => exact .nil
  | cons n ns =>
    rw [placedAmong, List.pairwise_append]
    refine ⟨Node.pairwise_placed _ n, pairwise_placedAmong _ _ ns, ?_⟩
    intro x hx y hy
    -- the position after the root settles it: it is the one of `n`, or a later one
    obtain ⟨way, -, hpath⟩ := (Node.mem_placed_iff _ n x).1 hx
    obtain ⟨j, m, way', -, -, hpath'⟩ := (mem_placedAmong_iff _ _ ns y).1 hy
    rw [hpath, hpath', ← List.append_cons, Path.positions_append, Path.positions_append]
    refine List.append_left_lt (List.cons_lt_cons_iff.2 (.inl ?_))
    omega

end

mutual

/-- The list of a member is as long as the count says. -/
theorem Node.length_placed (path : Path) (n : Node) :
    (n.placed path).length = n.conditionCount := by
  cases n with
  | condition c => rfl
  | group combinator members => exact length_placedAmong _ 0 members

/-- The list of several members is as long as the count says. -/
theorem length_placedAmong (root : Path) (i : Nat) (ns : List Node) :
    (placedAmong root i ns).length = conditionCountOf ns := by
  cases ns with
  | nil => rfl
  | cons n ns =>
    rw [placedAmong, List.length_append, Node.length_placed, length_placedAmong, conditionCountOf]

end

/-- In a sorted list, what is found first is what passes and has nothing before it that does. -/
theorem find?_eq_some_iff_of_pairwise {α : Type} {R : α → α → Prop} (hR : ∀ x y, R x y → ¬ R y x)
    {l : List α} (hl : l.Pairwise R) {test : α → Bool} {x : α} :
    l.find? test = some x ↔ x ∈ l ∧ test x = true ∧ ∀ y ∈ l, R y x → test y = false := by
  constructor
  · intro h
    obtain ⟨hx, front, rest, rfl, hfront⟩ := List.find?_eq_some_iff_append.1 h
    refine ⟨by simp, hx, ?_⟩
    intro y hy hyx
    rcases List.mem_append.1 hy with hy | hy
    · simpa using hfront y hy
    · exfalso
      rcases List.mem_cons.1 hy with rfl | hy
      · exact hR y y hyx hyx
      · have hrest := (List.pairwise_append.1 hl).2.1
        exact hR y x hyx (List.rel_of_pairwise_cons hrest hy)
  · rintro ⟨hmem, hx, hbefore⟩
    obtain ⟨front, rest, rfl⟩ := List.append_of_mem hmem
    refine List.find?_eq_some_iff_append.2 ⟨hx, front, rest, rfl, ?_⟩
    intro y hy
    have hyx := (List.pairwise_append.1 hl).2.2 y hy x (by simp)
    simp [hbefore y (by simp [hy]) hyx]

end

namespace Expression

section
variable {e : Expression} {a : Address} {c c' : Condition}

/-- One condition stands at an address. -/
theorem HasAt.unique (h : e.HasAt a c) (h' : e.HasAt a c') : c = c' := by
  obtain ⟨n, hmember, h⟩ := h
  obtain ⟨n', hmember', h'⟩ := h'
  have hsame := Option.some.inj (hmember.symm.trans hmember')
  subst hsame
  exact h.unique h'

/-- The list of an expression holds the condition at each address, with the path of it. -/
theorem mem_placed_iff {place : Path × Condition} :
    place ∈ e.placed ↔ ∃ a, e.HasAt a place.2 ∧ place.1 = a.path := by
  rw [placed, mem_placedAmong_iff]
  constructor
  · rintro ⟨j, n, way, hmember, h, hpath⟩
    rw [Nat.zero_add] at hpath
    exact ⟨⟨j, way⟩, ⟨n, hmember, h⟩, hpath⟩
  · rintro ⟨⟨j, way⟩, ⟨n, hmember, h⟩, hpath⟩
    refine ⟨j, n, way, hmember, h, ?_⟩
    rw [Nat.zero_add]
    exact hpath

/-- A condition is listed with the path of an address exactly if it stands there. -/
theorem mk_mem_placed_iff : (a.path, c) ∈ e.placed ↔ e.HasAt a c := by
  rw [mem_placed_iff]
  constructor
  · rintro ⟨b, h, hpath⟩
    rw [Address.path_injective hpath]
    exact h
  · exact fun h => ⟨a, h, rfl⟩

/-- The list of an expression is sorted by the positions on the ways down. -/
theorem pairwise_placed (e : Expression) :
    e.placed.Pairwise fun x y => x.1.positions < y.1.positions :=
  pairwise_placedAmong currentRoot 0 e.members

/-- The list of an expression is as long as the count says. -/
theorem length_placed (e : Expression) : e.placed.length = e.conditionCount :=
  length_placedAmong currentRoot 0 e.members

/-- The first condition that does not fit is the first one in the list. -/
theorem find?_placed_eq_some_iff :
    e.placed.find? (fun place => !place.2.fits) = some (a.path, c) ↔ e.FirstMisfitAt a c := by
  have hasymm : ∀ x y : Path × Condition, x.1.positions < y.1.positions →
      ¬ y.1.positions < x.1.positions := by
    intro x y
    exact List.lt_asymm
  rw [find?_eq_some_iff_of_pairwise hasymm e.pairwise_placed, mk_mem_placed_iff]
  constructor
  · rintro ⟨here, hmisfit, hbefore⟩
    refine ⟨here, by simpa using hmisfit, ?_⟩
    intro b c' h hlt
    simpa using hbefore (b.path, c') (mk_mem_placed_iff.2 h) (Address.positions_path_lt_iff.2 hlt)
  · rintro ⟨here, hmisfit, hbefore⟩
    refine ⟨here, by simpa using hmisfit, ?_⟩
    intro place hplace hlt
    obtain ⟨b, h, hpath⟩ := mem_placed_iff.1 hplace
    rw [hpath] at hlt
    simpa using hbefore b place.2 h (Address.positions_path_lt_iff.1 hlt)

/-- The paths of the list are the paths of the addresses at which conditions stand. -/
theorem mem_map_fst_placed_iff {path : Path} :
    path ∈ e.placed.map Prod.fst ↔ ∃ a, (∃ c, e.HasAt a c) ∧ a.path = path := by
  rw [List.mem_map]
  constructor
  · rintro ⟨place, hplace, rfl⟩
    obtain ⟨a, h, hpath⟩ := mem_placed_iff.1 hplace
    exact ⟨a, ⟨_, h⟩, hpath.symm⟩
  · rintro ⟨a, ⟨c, h⟩, rfl⟩
    exact ⟨(a.path, c), mk_mem_placed_iff.2 h, rfl⟩

/-- No path is listed twice. -/
theorem nodup_map_fst_placed (e : Expression) : (e.placed.map Prod.fst).Nodup := by
  rw [List.Nodup, List.pairwise_map]
  refine e.pairwise_placed.imp ?_
  intro x y hlt hsame
  rw [hsame] at hlt
  exact List.lt_irrefl _ hlt

/-- The count is the number of addresses at which conditions stand. -/
theorem encard_hasAt (e : Expression) : {a | ∃ c, e.HasAt a c}.encard = e.conditionCount := by
  have himage : Address.path '' {a | ∃ c, e.HasAt a c} = (e.placed.map Prod.fst).toFinset := by
    ext path
    simp only [Set.mem_image, Set.mem_ofPred_eq, List.coe_toFinset, mem_map_fst_placed_iff]
  calc {a | ∃ c, e.HasAt a c}.encard
    _ = (Address.path '' {a | ∃ c, e.HasAt a c}).encard :=
        (Address.path_injective.encard_image _).symm
    _ = (e.placed.map Prod.fst).toFinset.card := by rw [himage, Set.encard_coe_eq_coe_finsetCard]
    _ = e.conditionCount := by
        rw [List.toFinset_card_of_nodup e.nodup_map_fst_placed, List.length_map, length_placed]

/-- The check goes through the whole tree of an expression. It passes exactly if every condition
fits, at whatever depth it stands; otherwise it tells the first misfit, depth first and from left to
right, by its operator and its path. The path is spelt as the address of the condition, and that
is spelt differently for each of them. The count of conditions is that of their addresses. -/
theorem checkValues_tells_first_misfit (e : Expression) :
    (e.checkValues = .ok () ↔ ∀ a c, e.HasAt a c → c.fits = true) ∧
      (∀ d, e.checkValues = .error d ↔
        ∃ a c, e.FirstMisfitAt a c ∧ d = ⟨a.path, .invalidValue c.operator⟩) ∧
      (∀ a : Address, a.path.text = a.text) ∧
      (∀ a b c c', e.HasAt a c → e.HasAt b c' → a.text = b.text → a = b ∧ c = c') ∧
      {a | ∃ c, e.HasAt a c}.encard = e.conditionCount := by
  refine ⟨?_, ?_, Address.text_path, ?_, e.encard_hasAt⟩
  · rw [checkValues_eq_ok_iff]
    constructor
    · intro hfits a c h
      exact hfits (a.path, c) (mk_mem_placed_iff.2 h)
    · intro hfits place hplace
      obtain ⟨a, h, -⟩ := mem_placed_iff.1 hplace
      exact hfits a place.2 h
  · intro d
    rw [checkValues_eq_error_iff]
    constructor
    · rintro ⟨⟨path, c⟩, hfirst, rfl⟩
      obtain ⟨a, -, hpath⟩ := mem_placed_iff.1 (List.mem_of_find?_eq_some hfirst)
      dsimp only at hpath
      subst hpath
      exact ⟨a, c, find?_placed_eq_some_iff.1 hfirst, rfl⟩
    · rintro ⟨a, c, hfirst, rfl⟩
      exact ⟨(a.path, c), find?_placed_eq_some_iff.2 hfirst, rfl⟩
  · intro a b c c' h h' htext
    have hsame := Address.text_injective htext
    subst hsame
    exact ⟨rfl, h.unique h'⟩

/-- A condition that fits. -/
def isEnglish : Node := .condition ⟨"lang", .equal, .string "en"⟩

/-- A condition that does not fit: the operator expects a list. -/
def amongTags : Node := .condition ⟨"tags", .oneOf, .string "news"⟩

/-- A condition that does not fit: the operator expects a text. -/
def likeFive : Node := .condition ⟨"title", .like, .int 5⟩

/-- Groups three levels deep, with misfits in the innermost one and behind each level. -/
def threeLevels : Expression :=
  ⟨[isEnglish,
    .group .and [isEnglish, .group .or [isEnglish, .group .and [amongTags], likeFive], likeFive],
    likeFive]⟩

/-- Of the misfits at four depths, the check tells the deepest one, which comes first. -/
theorem checkValues_tells_first_misfit_threeLevels :
    (∃ c, threeLevels.FirstMisfitAt ⟨1, [(.and, 1), (.or, 1), (.and, 0)]⟩ c ∧
      c.operator = .oneOf) ∧
    (∃ d, threeLevels.checkValues = .error d ∧ d.path.text = "filters[1].and[1].or[1].and[0]") ∧
    {a | ∃ c, threeLevels.HasAt a c}.encard = 7 := by
  obtain ⟨-, herror, htext, -, hcount⟩ := checkValues_tells_first_misfit threeLevels
  have hcheck : threeLevels.checkValues = .error
      ⟨Address.path ⟨1, [(.and, 1), (.or, 1), (.and, 0)]⟩, .invalidValue .oneOf⟩ := rfl
  obtain ⟨a, c, hfirst, hd⟩ := (herror _).1 hcheck
  injection hd with hpath hcause
  injection hcause with hoperator
  rw [← Address.path_injective hpath] at hfirst
  refine ⟨⟨c, hfirst, hoperator.symm⟩, ⟨_, hcheck, ?_⟩, hcount⟩
  rw [htext]
  decide

end

end Expression

end Filter

end SearchGateway
