import Reckoner.Outcome
import Reckoner.Proofs.Conservation

/-! What evaluations accept. Groups must nest, but operands and operators need not alternate: an operand too few in one
place makes up for one too many in another. Numbers and operators are counted over all tokens, so tokens that have a
value lack as many operands as they have without an operator before them. Those that lack none are infix
expressions. -/

namespace Reckoner.Proofs.Grammar
open Postfix Conservation

inductive Derivable : List Token → Prop
  | number (value : Float) : Derivable [.number value]
  | group {body : List Token} : Derivable body → Derivable (.leftParen :: body ++ [.rightParen])
  | call (f : Func) {argument : List Token} :
    Derivable argument → Derivable (.function f :: .leftParen :: argument ++ [.rightParen])
  | binary (op : Operator) {left right : List Token} :
    Derivable left → Derivable right → Derivable (left ++ .operator op :: right)

def ends : Token → Bool
  | .number _ | .rightParen => true
  | _ => false

def starts : Token → Bool
  | .number _ | .leftParen | .function _ => true
  | _ => false

/-- A place between two tokens, or at either end: whether an operand ends right before it, and whether one starts
right behind it. -/
structure Place where
  ended : Bool
  starts : Bool
  deriving DecidableEq

def places (ended : Bool) : List Token → List Place
  | [] => [⟨ended, false⟩]
  | token :: rest => ⟨ended, starts token⟩ :: places (ends token) rest

/-- How often an operand is due, and an operator, a closing parenthesis or the end comes instead. -/
def missing (tokens : List Token) : Nat :=
  (places false tokens).count ⟨false, false⟩

/-- How often an operand follows another one. -/
def juxtaposed (tokens : List Token) : Nat :=
  (places false tokens).count ⟨true, true⟩

private theorem places_count (ended : Bool) (tokens : List Token) :
    (values tokens).length + ended.toNat + (places ended tokens).count ⟨false, false⟩ =
      (symbols tokens).countP isBinary + 1 + (places ended tokens).count ⟨true, true⟩ := by
  induction tokens generalizing ended with
  | nil => cases ended <;> rfl
  | cons token rest ih =>
    have balance := ih (ends token)
    cases token <;> cases ended <;>
      simp [places, starts, ends, values, symbols, isBinary, List.countP_cons] at balance ⊢ <;> omega

theorem missing_eq_juxtaposed {tokens : List Token} {value : Float} (reduced : Stacks.reduce tokens = .ok value) :
    missing tokens = juxtaposed tokens := by
  have balance := places_count false tokens
  have numbers := (reduce_ok reduced).2
  rw [Bool.toNat_false] at balance
  unfold missing juxtaposed
  omega

/-- Whether every group is closed, with `depth` groups open before, and every function has an argument. -/
def Nested : Nat → List Token → Prop
  | depth, [] => depth = 0
  | depth, .number _ :: rest | depth, .operator _ :: rest => Nested depth rest
  | depth, .leftParen :: rest | depth, .function _ :: .leftParen :: rest => Nested (depth + 1) rest
  | _, .function _ :: _ => False
  | 0, .rightParen :: _ => False
  | depth + 1, .rightParen :: rest => Nested depth rest

def depth : List Mark → Nat
  | [] => 0
  | .operator _ :: marks => depth marks
  | .group _ :: marks => depth marks + 1

theorem release_depth (rank : Nat) (marks : List Mark) : depth (release rank marks).2 = depth marks := by
  fun_induction release rank marks with
  | case1 op marks binds ih => exact ih
  | case2 op marks loose => rfl
  | case3 marks noOperator => rfl

theorem release_zero (marks : List Mark) :
    (release 0 marks).2 = [] ∨ ∃ f below, (release 0 marks).2 = .group f :: below := by
  fun_induction release 0 marks with
  | case1 op marks binds ih => exact ih
  | case2 op marks loose => exact absurd (Nat.zero_le _) loose
  | case3 marks noOperator =>
    rcases marks with _ | ⟨op | f, below⟩
    · exact .inl rfl
    · exact absurd rfl (noOperator op below)
    · exact .inr ⟨f, below, rfl⟩

theorem stopped_eq_none_iff {marks : List Mark} {tokens : List Token} :
    (translateFrom marks tokens).stopped = none ↔ Nested (depth marks) tokens := by
  fun_induction translateFrom marks tokens with
  | case1 marks =>
    have same := release_depth 0 marks
    rcases release_zero marks with closed | ⟨f, below, opened⟩
    · rw [closed] at same
      simp [closed, Nested, ← same, depth]
    · rw [opened] at same
      simp [opened, Nested, ← same, depth]
  | case2 marks value rest ih => exact ih
  | case3 marks rest ih => exact ih
  | case4 marks f rest ih => exact ih
  | case5 marks f rest other =>
    rcases rest with _ | ⟨token, rest⟩
    · simp [Nested]
    · cases token with
      | leftParen => exact absurd rfl (other rest)
      | _ => simp [Nested]
  | case6 marks op rest ih =>
    rw [depth, release_depth] at ih
    exact ih
  | case7 marks rest f below released ih =>
    have same := release_depth 0 marks
    rw [released] at same
    rw [← same]
    exact ih
  | case8 marks rest unopened =>
    have same := release_depth 0 marks
    rcases release_zero marks with closed | ⟨f, below, opened⟩
    · rw [closed] at same
      simp [Nested, ← same, depth]
    · exact absurd opened (unopened f below)

namespace Derivable
variable {tokens : List Token}

theorem nested_append (derivable : Derivable tokens) (depth : Nat) (rest : List Token) :
    Nested depth (tokens ++ rest) ↔ Nested depth rest := by
  induction derivable generalizing depth rest with
  | number value => exact .rfl
  | group _ ih | call f _ ih =>
    simp only [List.cons_append, List.append_assoc, Nested]
    exact (ih (depth + 1) (.rightParen :: rest)).trans .rfl
  | binary op _ _ ihLeft ihRight =>
    rw [List.append_assoc, ihLeft, List.cons_append]
    exact ihRight depth rest

theorem places_append (derivable : Derivable tokens) (rest : List Token) (place : Place)
    (fault : place.ended = place.starts) :
    (places false (tokens ++ rest)).count place = (places true rest).count place := by
  obtain ⟨ended, starting⟩ := place
  cases fault
  have before (token : Token) (following : List Token) (opens : starts token = true) :
      (places false (token :: following)).count ⟨ended, ended⟩ =
        (places (ends token) following).count ⟨ended, ended⟩ := by
    rw [places, opens]
    cases ended <;> rfl
  have behind (token : Token) (following : List Token) (closes : starts token = false) :
      (places true (token :: following)).count ⟨ended, ended⟩ =
        (places (ends token) following).count ⟨ended, ended⟩ := by
    rw [places, closes]
    cases ended <;> rfl
  induction derivable generalizing rest with
  | number value => exact before _ _ rfl
  | group _ ih =>
    rw [List.append_assoc, List.cons_append, before _ _ rfl]
    exact (ih _).trans (behind _ _ rfl)
  | call f _ ih =>
    rw [List.append_assoc, List.cons_append, List.cons_append, before _ _ rfl]
    exact (before _ _ rfl).trans ((ih _).trans (behind _ _ rfl))
  | binary op _ _ ihLeft ihRight =>
    rw [List.append_assoc, ihLeft, List.cons_append, behind _ _ rfl]
    exact ihRight rest

end Derivable

/-- What a group can hold before an operand. -/
inductive Lead : List Token → Prop
  | start : Lead []
  | operator (op : Operator) {operand : List Token} : Derivable operand → Lead (operand ++ [.operator op])

theorem Lead.complete {lead operand : List Token} (leads : Lead lead) (derivable : Derivable operand) :
    Derivable (lead ++ operand) := by
  cases leads with
  | start => exact derivable
  | operator op left =>
    rw [List.append_assoc]
    exact left.binary op derivable

def opening : Option Func → List Token
  | some f => [.function f, .leftParen]
  | none => [.leftParen]

theorem Derivable.enclosed {content : List Token} (derivable : Derivable content) (f : Option Func) :
    Derivable (opening f ++ content ++ [.rightParen]) := by
  cases f with
  | some f => exact derivable.call f
  | none => exact derivable.group

/-- The tokens up to the innermost open parenthesis, if `depth` groups are open. -/
inductive Opened : Nat → List Token → Prop
  | start : Opened 0 []
  | group (f : Option Func) {depth : Nat} {before lead : List Token} :
    Opened depth before → Lead lead → Opened (depth + 1) (before ++ lead ++ opening f)

def Content : Bool → List Token → Prop
  | true, content => Derivable content
  | false, content => Lead content

def Alternate (ended : Bool) (tokens : List Token) : Prop :=
  ∀ place ∈ places ended tokens, place.ended ≠ place.starts

theorem Alternate.step {ended : Bool} {token : Token} {rest : List Token}
    (alternate : Alternate ended (token :: rest)) : ended = !starts token ∧ Alternate (ends token) rest := by
  have first := alternate ⟨ended, starts token⟩ (.head _)
  exact ⟨Bool.eq_not.mpr first, fun place member => alternate place (.tail _ member)⟩

/-- Tokens that nest and alternate complete what was read before them to an infix expression. -/
private theorem derivable_of_nested {depth : Nat} {ended : Bool} {before content tokens : List Token}
    (nested : Nested depth tokens) (opened : Opened depth before) (holds : Content ended content)
    (alternate : Alternate ended tokens) : Derivable (before ++ content ++ tokens) := by
  fun_induction Nested depth tokens generalizing ended before content with
  | case1 depth =>
    cases nested
    cases opened
    cases ended with
    | true =>
      have whole : Derivable content := holds
      simpa using whole
    | false => exact absurd rfl (alternate ⟨false, false⟩ (.head _))
  | case2 depth value rest ih =>
    obtain ⟨rfl, following⟩ := alternate.step
    have operand : Content true (content ++ [.number value]) := Lead.complete holds (.number value)
    simpa using ih nested opened operand following
  | case3 depth op rest ih =>
    obtain ⟨rfl, following⟩ := alternate.step
    have lead : Content false (content ++ [.operator op]) := Lead.operator op holds
    simpa using ih nested opened lead following
  | case4 depth rest ih =>
    obtain ⟨rfl, following⟩ := alternate.step
    have lead : Content false [] := Lead.start
    simpa [opening] using ih nested (.group none opened holds) lead following
  | case5 depth f rest ih =>
    obtain ⟨rfl, following⟩ := alternate.step
    have lead : Content false [] := Lead.start
    simpa [opening] using ih nested (.group (some f) opened holds) lead following.step.2
  | case6 => cases nested
  | case7 => cases nested
  | case8 rest depth ih =>
    obtain ⟨rfl, following⟩ := alternate.step
    cases opened with
    | @group f _ before lead opened leads =>
      have operand : Content true (lead ++ (opening f ++ content ++ [.rightParen])) :=
        leads.complete (Derivable.enclosed holds f)
      simpa using ih nested opened operand following

/-- Infix expressions are the tokens that nest, and have no operand too few and none too many. -/
theorem derivable_iff {tokens : List Token} :
    Derivable tokens ↔ Nested 0 tokens ∧ missing tokens = 0 ∧ juxtaposed tokens = 0 := by
  constructor
  · intro derivable
    have nested := (derivable.nested_append 0 []).mpr rfl
    have complete := derivable.places_append [] ⟨false, false⟩ rfl
    have apart := derivable.places_append [] ⟨true, true⟩ rfl
    rw [List.append_nil] at nested complete apart
    exact ⟨nested, complete, apart⟩
  · rintro ⟨nested, complete, apart⟩
    have alternate : Alternate false tokens := by
      rintro ⟨ended, starting⟩ member same
      cases same
      cases ended with
      | true => exact List.count_eq_zero.mp apart member
      | false => exact List.count_eq_zero.mp complete member
    have lead : Content false [] := Lead.start
    exact derivable_of_nested nested .start lead alternate

theorem reduce_ok_derivable_iff {tokens : List Token} {value : Float} (reduced : Stacks.reduce tokens = .ok value) :
    Derivable tokens ↔ missing tokens = 0 := by
  have nested : Nested 0 tokens := stopped_eq_none_iff.mp (reduce_ok reduced).1
  have balanced := missing_eq_juxtaposed reduced
  rw [derivable_iff, ← balanced]
  exact ⟨fun ⟨_, complete, _⟩ => complete, fun complete => ⟨nested, complete, complete⟩⟩

/-- A text whose evaluation succeeds lacks an operand for each one that it has too many, and if it lacks none, it is an
infix expression. -/
theorem accepted_derivable_iff (settings : Settings) (source : String)
    (accepted : (Outcome.ofSource settings (some source)).ok = true) :
    ∃ tokens, Formula.tokens settings (some source) = .ok tokens ∧ missing tokens = juxtaposed tokens ∧
      (Derivable tokens ↔ missing tokens = 0) := by
  rw [Outcome.ofSource, Formula.value] at accepted
  cases scanned : Formula.tokens settings (some source) with
  | error failure => simp [scanned, Outcome.ofResult] at accepted
  | ok tokens =>
    cases reduced : Stacks.reduce tokens with
    | error failure => simp [scanned, reduced, Outcome.ofResult] at accepted
    | ok value => exact ⟨tokens, rfl, missing_eq_juxtaposed reduced, reduce_ok_derivable_iff reduced⟩

theorem accepted_derivable_product :
    (Outcome.ofSource {} (some "2*(3-1)")).ok = true ∧
    ∃ tokens, Formula.tokens {} (some "2*(3-1)") = .ok tokens ∧ missing tokens = juxtaposed tokens ∧
      (Derivable tokens ↔ missing tokens = 0) := by
  have accepted : (Outcome.ofSource {} (some "2*(3-1)")).ok = true := by decide +kernel
  exact ⟨accepted, accepted_derivable_iff {} "2*(3-1)" accepted⟩

/-- Two operands without an operator between them, an operator without its left operand in its group, an empty group,
and a function with an empty argument. -/
theorem accepted_not_derivable :
    Outcome.ofSource {} (some "2(3)+") = { ok := true, value := some 5 } ∧
    ∀ source ∈ ["2(3)+", "2(+3)", "2(3)()+", "4sqrt()"],
      (Outcome.ofSource {} (some source)).ok = true ∧
      ∃ tokens, Formula.tokens {} (some source) = .ok tokens ∧ ¬ Derivable tokens := by
  have underivable (source : String) (lacking : Nat)
      (lacks : (Formula.tokens {} (some source)).toOption.map missing = some (lacking + 1)) :
      ∃ tokens, Formula.tokens {} (some source) = .ok tokens ∧ ¬ Derivable tokens := by
    cases scanned : Formula.tokens {} (some source) with
    | error failure =>
      rw [scanned] at lacks
      cases lacks
    | ok tokens =>
      rw [scanned] at lacks
      have positive : missing tokens = lacking + 1 := Option.some.inj lacks
      refine ⟨tokens, rfl, fun derivable => ?_⟩
      have complete := (derivable_iff.mp derivable).2.1
      omega
  refine ⟨by decide +kernel, ?_⟩
  simp only [List.forall_mem_cons]
  refine ⟨⟨by decide +kernel, underivable _ 0 (by decide +kernel)⟩,
    ⟨by decide +kernel, underivable _ 0 (by decide +kernel)⟩,
    ⟨by decide +kernel, underivable _ 1 (by decide +kernel)⟩,
    ⟨by decide +kernel, underivable _ 0 (by decide +kernel)⟩, nofun⟩

end Reckoner.Proofs.Grammar
