import Reckoner.Proofs.JsonGrammar

/-! A document stands for one value only, so that everyone who keeps to the grammar reads the same in it. Where two
readings begin together, the first character of what follows decides for both. -/

namespace Reckoner.Proofs.JsonGrammar

/-- A run that ends where its kind of character does is cut off in one way. -/
theorem run_unique {p : Char → Bool} {run run' rest rest' : List Char} (all : ∀ c ∈ run, p c) (all' : ∀ c ∈ run', p c)
    (ends : ¬ rest.head?.any p) (ends' : ¬ rest'.head?.any p) (same : run ++ rest = run' ++ rest') :
    run = run' ∧ rest = rest' := by
  induction run generalizing run' with
  | nil =>
    cases run' with
    | nil => exact ⟨rfl, same⟩
    | cons c run' =>
      rw [List.nil_append] at same
      exact absurd (by simpa [same] using all' c List.mem_cons_self) ends
  | cons c run ih =>
    cases run' with
    | nil =>
      rw [List.nil_append] at same
      exact absurd (by simpa [← same] using all c List.mem_cons_self) ends'
    | cons c' run' =>
      obtain ⟨rfl, tails⟩ := List.cons.inj same
      obtain ⟨run, rest⟩ := ih (List.forall_mem_cons.mp all).2 (List.forall_mem_cons.mp all').2 tails
      exact ⟨by rw [run], rest⟩

section
variable {rest rest' : List Char}

theorem Body.unique {meaning meaning' cs : List Char} (first : Body meaning cs rest) (second : Body meaning' cs rest') :
    meaning = meaning' ∧ rest = rest' := by
  have letters : ∀ one ∈ escapes, one.1 ≠ 'u' ∧ ∀ other ∈ escapes, one.1 = other.1 → one.2 = other.2 := by decide
  induction first generalizing meaning' with
  | close =>
    cases second with
    | close => exact ⟨rfl, rfl⟩
    | plain _ mark => contradiction
  | plain _ mark slash _ ih =>
    cases second with
    | close => contradiction
    | plain _ _ _ others =>
      obtain ⟨rfl, rfl⟩ := ih others
      exact ⟨rfl, rfl⟩
    | escape => contradiction
    | unit => contradiction
    | pair => contradiction
  | escape known _ ih =>
    cases second with
    | plain _ _ slash => contradiction
    | escape known' others =>
      obtain ⟨rfl, rfl⟩ := ih others
      exact ⟨congrArg (· :: _) ((letters _ known).2 _ known' rfl), rfl⟩
    | unit => exact absurd rfl (letters _ known).1
    | pair => exact absurd rfl (letters _ known).1
  | unit read whole _ ih =>
    cases second with
    | plain _ _ slash => contradiction
    | escape known => exact absurd rfl (letters _ known).1
    | unit read' _ others =>
      obtain ⟨rfl, rfl⟩ := ih others
      obtain rfl := Option.some.inj (read.symm.trans read')
      exact ⟨rfl, rfl⟩
    | pair high _ first =>
      obtain rfl := Option.some.inj (read.symm.trans high)
      omega
  | pair high low first _ _ ih =>
    cases second with
    | plain _ _ slash => contradiction
    | escape known => exact absurd rfl (letters _ known).1
    | unit read whole =>
      obtain rfl := Option.some.inj (read.symm.trans high)
      omega
    | pair high' low' _ _ others =>
      obtain ⟨rfl, rfl⟩ := ih others
      obtain rfl := Option.some.inj (high.symm.trans high')
      obtain rfl := Option.some.inj (low.symm.trans low')
      exact ⟨rfl, rfl⟩

private theorem Power.head {p : List Char} {k : ℤ} (power : Power p k) (ends : Ends rest) :
    ¬ (p ++ rest).head?.any fun c => c.isDigit || c = '.' := by
  cases power with
  | none =>
    cases rest with
    | nil => simp
    | cons c rest =>
      simp only [Ends, List.head?_cons, Option.any_some, Bool.or_eq_true, not_or] at ends
      simp [ends]
  | some letter => rcases letter with rfl | rfl <;> simp

private theorem digits_head {ds : List Char} (digits : Digits ds) : ∃ d tail, ds = d :: tail ∧ d.isDigit := by
  obtain ⟨d, tail, rfl⟩ := List.exists_cons_of_ne_nil digits.present
  exact ⟨d, tail, rfl, digits.all d List.mem_cons_self⟩

private theorem not_digits {ds : List Char} {c : Char} (digits : Digits ds) (other : c.isDigit = false)
    (cs : List Char) : ds ++ rest ≠ c :: cs := by
  obtain ⟨d, tail, rfl, digit⟩ := digits_head digits
  intro same
  rw [List.cons_append] at same
  rw [(List.cons.inj same).1, other] at digit
  cases digit

private theorem head_digit (ends : ¬ rest.head?.any fun c => c.isDigit || c = '.') : ¬ rest.head?.any Char.isDigit := by
  cases rest with
  | nil => simp
  | cons c rest =>
    simp only [List.head?_cons, Option.any_some, Bool.or_eq_true, not_or] at ends
    simp [ends]

private theorem Ends.digit (ends : Ends rest) : ¬ rest.head?.any Char.isDigit :=
  head_digit (Power.none.head ends)

theorem Signed.unique {cs cs' : List Char} {k k' : ℤ} (first : Signed cs k) (second : Signed cs' k') (ends : Ends rest)
    (ends' : Ends rest') (same : cs ++ rest = cs' ++ rest') : k = k' ∧ rest = rest' := by
  have run {ds ds' : List Char} (digits : Digits ds) (digits' : Digits ds') (same : ds ++ rest = ds' ++ rest') :=
    run_unique digits.all digits'.all ends.digit ends'.digit same
  cases first with
  | plain digits =>
    cases second with
    | plain digits' =>
      obtain ⟨rfl, rfl⟩ := run digits digits' same
      exact ⟨rfl, rfl⟩
    | plus => exact absurd same (not_digits digits (by decide) _)
    | minus => exact absurd same (not_digits digits (by decide) _)
  | plus digits =>
    cases second with
    | plain digits' => exact absurd same.symm (not_digits digits' (by decide) _)
    | plus digits' =>
      obtain ⟨rfl, rfl⟩ := run digits digits' (List.cons.inj same).2
      exact ⟨rfl, rfl⟩
    | minus => exact absurd (List.cons.inj same).1 (by decide)
  | minus digits =>
    cases second with
    | plain digits' => exact absurd same.symm (not_digits digits' (by decide) _)
    | plus => exact absurd (List.cons.inj same).1 (by decide)
    | minus digits' =>
      obtain ⟨rfl, rfl⟩ := run digits digits' (List.cons.inj same).2
      exact ⟨rfl, rfl⟩

theorem Power.unique {p p' : List Char} {k k' : ℤ} (first : Power p k) (second : Power p' k') (ends : Ends rest)
    (ends' : Ends rest') (same : p ++ rest = p' ++ rest') : k = k' ∧ rest = rest' := by
  have letter_ends {e : Char} {cs : List Char} (letter : e = 'e' ∨ e = 'E') : ¬ Ends (e :: cs) := by
    rcases letter with rfl | rfl <;> simp [Ends]
  cases first with
  | none =>
    cases second with
    | none => exact ⟨rfl, same⟩
    | some letter =>
      rw [List.nil_append] at same
      exact absurd (same ▸ ends) (letter_ends letter)
  | some letter signed =>
    cases second with
    | none =>
      rw [List.nil_append] at same
      exact absurd (same ▸ ends') (letter_ends letter)
    | some _ signed' => exact signed.unique signed' ends ends' (List.cons.inj same).2

theorem Fraction.unique {f f' ds ds' tail tail' : List Char} (first : Fraction f ds) (second : Fraction f' ds')
    (ends : ¬ tail.head?.any fun c => c.isDigit || c = '.') (ends' : ¬ tail'.head?.any fun c => c.isDigit || c = '.')
    (same : f ++ tail = f' ++ tail') : ds = ds' ∧ tail = tail' := by
  cases first with
  | none =>
    cases second with
    | none => exact ⟨rfl, same⟩
    | some =>
      rw [List.nil_append] at same
      simp [same] at ends
  | some digits =>
    cases second with
    | none =>
      rw [List.nil_append] at same
      simp [← same] at ends'
    | some digits' =>
      exact run_unique digits.all digits'.all (head_digit ends) (head_digit ends') (List.cons.inj same).2

private theorem Fraction.head {f ds tail : List Char} (fraction : Fraction f ds)
    (ends : ¬ tail.head?.any fun c => c.isDigit || c = '.') : ¬ (f ++ tail).head?.any Char.isDigit := by
  cases fraction with
  | none => exact head_digit ends
  | some => simp

private theorem sign_unique {negative negative' : Bool} {w w' tail tail' : List Char} (whole : Whole w)
    (whole' : Whole w')
    (same : sign negative ++ (w ++ tail) = sign negative' ++ (w' ++ tail')) :
    negative = negative' ∧ w ++ tail = w' ++ tail' := by
  cases negative <;> cases negative'
  · exact ⟨rfl, same⟩
  · exact absurd same (not_digits whole.toDigits (by decide) _)
  · exact absurd same.symm (not_digits whole'.toDigits (by decide) _)
  · exact ⟨rfl, (List.cons.inj same).2⟩

end

/-- The character that a value begins with, where a zero stands for all that a number may begin with. -/
def Value.opening : Value → Char
  | .null => 'n'
  | .bool value => if value then 't' else 'f'
  | .number .. => '0'
  | .text _ => '"'
  | .array _ => '['
  | .object _ => '\x7b'

def opener (c : Char) : Char :=
  if c = '-' || c.isDigit then '0' else c

theorem Reads.opening {v : Value} {cs rest : List Char} (reads : Reads (.value v) cs rest) :
    ∃ c tail, cs = c :: tail ∧ opener c = v.opening := by
  cases reads with
  | number negative whole =>
    obtain ⟨d, tail, rfl, digit⟩ := digits_head whole.toDigits
    cases negative with
    | false => exact ⟨d, _, rfl, by simp [opener, digit, Value.opening]⟩
    | true => exact ⟨'-', _, rfl, rfl⟩
  | _ => exact ⟨_, _, rfl, by simp [opener, Value.opening]⟩

private theorem opening_plain {c : Char} {v : Value} (opens : opener c = v.opening) : isSpace c = false ∧ c ≠ ']' := by
  have kinds : v.opening ∈ ['n', 't', 'f', '0', '"', '[', '\x7b'] := by
    cases v with
    | bool value => cases value <;> decide
    | _ => exact of_decide_eq_true rfl
  rw [← opens] at kinds
  constructor
  · by_contra space
    simp only [isSpace, Bool.or_eq_false_iff, decide_eq_false_iff_not, not_and_or, not_not] at space
    rcases space with ((rfl | rfl) | rfl) | rfl <;> exact absurd kinds (by decide)
  · rintro rfl
    exact absurd kinds (by decide)

private theorem spaces_unique {left left' tail tail' : List Char} {c c' : Char} (spaces : Spaces left)
    (spaces' : Spaces left') (plain : isSpace c = false) (plain' : isSpace c' = false)
    (same : left ++ c :: tail = left' ++ c' :: tail') : c = c' ∧ tail = tail' := by
  have cut := run_unique spaces spaces' (by simp [plain]) (by simp [plain']) same
  exact List.cons.inj cut.2

/-- Where a value begins does not depend on how the spaces before it are counted. -/
private theorem value_start {left left' cs cs' rest rest' : List Char} {v v' : Value} (spaces : Spaces left)
    (spaces' : Spaces left') (reads : Reads (.value v) cs rest) (reads' : Reads (.value v') cs' rest')
    (same : left ++ cs = left' ++ cs') : cs = cs' := by
  obtain ⟨c, tail, rfl, opens⟩ := reads.opening
  obtain ⟨c', tail', rfl, opens'⟩ := reads'.opening
  obtain ⟨rfl, rfl⟩ := spaces_unique spaces spaces' (opening_plain opens).1 (opening_plain opens').1 same
  rfl

section
variable {v : Value} {cs rest : List Char}

private theorem first_opener {c : Char} (reads : Reads (.value v) (c :: cs) rest) : opener c = v.opening := by
  obtain ⟨_, _, whole, opens⟩ := reads.opening
  cases whole
  exact opens

private theorem reads_null (reads : Reads (.value v) ('n' :: cs) rest) :
    v = .null ∧ cs = 'u' :: 'l' :: 'l' :: rest := by
  have kind := first_opener reads
  generalize shape : 'n' :: cs = text at reads
  cases reads <;> simp [Value.opening, opener] at kind
  exact ⟨rfl, (List.cons.inj shape).2⟩

private theorem reads_true (reads : Reads (.value v) ('t' :: cs) rest) :
    v = .bool true ∧ cs = 'r' :: 'u' :: 'e' :: rest := by
  have kind := first_opener reads
  generalize shape : 't' :: cs = text at reads
  cases reads <;> simp [Value.opening, opener] at kind
  exact ⟨rfl, (List.cons.inj shape).2⟩

private theorem reads_false (reads : Reads (.value v) ('f' :: cs) rest) :
    v = .bool false ∧ cs = 'a' :: 'l' :: 's' :: 'e' :: rest := by
  have kind := first_opener reads
  generalize shape : 'f' :: cs = text at reads
  cases reads <;> simp [Value.opening, opener] at kind
  exact ⟨rfl, (List.cons.inj shape).2⟩

private theorem reads_text (reads : Reads (.value v) ('"' :: cs) rest) :
    ∃ meaning, v = .text (String.ofList meaning) ∧ Body meaning cs rest := by
  have kind := first_opener reads
  generalize shape : '"' :: cs = text at reads
  cases reads <;> simp [Value.opening, opener] at kind
  case text meaning cs' body =>
    cases shape
    exact ⟨meaning, rfl, body⟩

private theorem reads_array (reads : Reads (.value v) ('[' :: cs) rest) :
    (v = .array [] ∧ ∃ between, Spaces between ∧ cs = between ++ ']' :: rest) ∨
      ∃ items, v = .array items ∧ Reads (.items items) cs rest := by
  have kind := first_opener reads
  generalize shape : '[' :: cs = text at reads
  cases reads <;> simp [Value.opening, opener] at kind
  case noItems between spaces =>
    cases shape
    exact .inl ⟨rfl, between, spaces, rfl⟩
  case array items cs' inside =>
    cases shape
    exact .inr ⟨items, rfl, inside⟩

private theorem reads_object (reads : Reads (.value v) ('\x7b' :: cs) rest) :
    (v = .object [] ∧ ∃ between, Spaces between ∧ cs = between ++ '\x7d' :: rest) ∨
      ∃ members, v = .object members ∧ Reads (.members members) cs rest := by
  have kind := first_opener reads
  generalize shape : '\x7b' :: cs = text at reads
  cases reads <;> simp [Value.opening, opener] at kind
  case noMembers between spaces =>
    cases shape
    exact .inl ⟨rfl, between, spaces, rfl⟩
  case object members cs' inside =>
    cases shape
    exact .inr ⟨members, rfl, inside⟩

private theorem reads_number (reads : Reads (.value v) cs rest) (number : v.opening = '0') :
    ∃ negative w f ds p k, v = .number negative (amount w ds k) ∧ Whole w ∧ Fraction f ds ∧ Power p k ∧ Ends rest ∧
      cs = sign negative ++ (w ++ (f ++ (p ++ rest))) := by
  cases reads <;> simp [Value.opening] at number
  case number negative whole fraction power ends =>
    exact ⟨negative, _, _, _, _, _, rfl, whole, fraction, power, ends, rfl⟩

/-- Items and members begin with something, and not with the bracket that would close them at once. -/
private theorem items_start {items : List Value} (reads : Reads (.items items) cs rest) :
    ∃ left c tail, Spaces left ∧ cs = left ++ c :: tail ∧ isSpace c = false ∧ c ≠ ']' := by
  cases reads with
  | lastItem before item =>
    obtain ⟨c, tail, rfl, opens⟩ := item.opening
    exact ⟨_, c, tail, before, rfl, opening_plain opens⟩
  | item before item =>
    obtain ⟨c, tail, rfl, opens⟩ := item.opening
    exact ⟨_, c, tail, before, rfl, opening_plain opens⟩

private theorem members_start {members : List (String × Value)} (reads : Reads (.members members) cs rest) :
    ∃ left tail, Spaces left ∧ cs = left ++ '"' :: tail := by
  cases reads with
  | lastMember before => exact ⟨_, _, before, rfl⟩
  | member before => exact ⟨_, _, before, rfl⟩

end

private theorem not_items {between cs rest : List Char} {items : List Value} (spaces : Spaces between) :
    ¬ Reads (.items items) (between ++ ']' :: cs) rest := by
  intro inside
  obtain ⟨left, c, tail, spaces', same, plain, other⟩ := items_start inside
  exact other (spaces_unique spaces spaces' (by decide) plain same).1.symm

private theorem not_members {between cs rest : List Char} {members : List (String × Value)} (spaces : Spaces between) :
    ¬ Reads (.members members) (between ++ '\x7d' :: cs) rest := by
  intro inside
  obtain ⟨left, tail, spaces', same⟩ := members_start inside
  exact absurd (spaces_unique spaces spaces' (by decide) (by decide) same).1 (by decide)

/-- There is nothing else that could be read instead. -/
def Sole : Phrase → List Char → List Char → Prop
  | .value v, cs, rest => ∀ v' rest', Reads (.value v') cs rest' → v = v' ∧ rest = rest'
  | .items items, cs, rest => ∀ items' rest', Reads (.items items') cs rest' → items = items' ∧ rest = rest'
  | .members members, cs, rest =>
    ∀ members' rest', Reads (.members members') cs rest' → members = members' ∧ rest = rest'

private theorem number_sole {negative : Bool} {w f ds p rest : List Char} {k : ℤ} (whole : Whole w)
    (fraction : Fraction f ds) (power : Power p k) (ends : Ends rest) :
    Sole (.value (.number negative (amount w ds k))) (sign negative ++ (w ++ (f ++ (p ++ rest)))) rest := by
  intro v' rest' other
  obtain ⟨c, tail, shape, opens⟩ := (Reads.number negative whole fraction power ends).opening
  obtain ⟨c', tail', shape', opens'⟩ := other.opening
  obtain ⟨rfl, rfl⟩ := List.cons.inj (shape.symm.trans shape')
  obtain ⟨negative', w', f', ds', p', k', rfl, whole', fraction', power', ends', same⟩ :=
    reads_number other (opens'.symm.trans opens)
  have stops := power.head ends
  have stops' := power'.head ends'
  obtain ⟨rfl, unsigned⟩ := sign_unique whole whole' same
  obtain ⟨rfl, places⟩ := run_unique whole.all whole'.all (fraction.head stops) (fraction'.head stops') unsigned
  obtain ⟨rfl, last⟩ := fraction.unique fraction' stops stops' places
  obtain ⟨rfl, rfl⟩ := power.unique power' ends ends' last
  exact ⟨rfl, rfl⟩

private theorem text_sole {meaning cs rest : List Char} (body : Body meaning cs rest) :
    Sole (.value (.text (String.ofList meaning))) ('"' :: cs) rest := by
  intro v' rest' other
  obtain ⟨meaning', rfl, body'⟩ := reads_text other
  obtain ⟨rfl, rfl⟩ := body.unique body'
  exact ⟨rfl, rfl⟩

section
variable {left left' right right' cs cs' rest next next' : List Char} {mark mark' : Char} {v v' : Value}
  {items : List Value}

private theorem noItems_sole (spaces : Spaces left) :
    Sole (.value (.array [])) ('[' :: (left ++ ']' :: rest)) rest := by
  intro v' rest' other
  obtain ⟨rfl, between, spaces', whole⟩ | ⟨items, rfl, inside⟩ := reads_array other
  · exact ⟨rfl, (spaces_unique spaces spaces' (by decide) (by decide) whole).2⟩
  · exact absurd inside (not_items spaces)

private theorem array_sole (inside : Reads (.items items) cs rest) (sole : Sole (.items items) cs rest) :
    Sole (.value (.array items)) ('[' :: cs) rest := by
  intro v' rest' other
  obtain ⟨rfl, between, spaces', rfl⟩ | ⟨items', rfl, inside'⟩ := reads_array other
  · exact absurd inside (not_items spaces')
  · obtain ⟨rfl, rfl⟩ := sole _ _ inside'
    exact ⟨rfl, rfl⟩

/-- What an item is and which mark stands behind it. -/
private theorem item_unique (before : Spaces left) (item : Reads (.value v) cs (right ++ mark :: next))
    (after : Spaces right) (sole : Sole (.value v) cs (right ++ mark :: next)) (before' : Spaces left')
    (item' : Reads (.value v') cs' (right' ++ mark' :: next')) (after' : Spaces right')
    (plain : isSpace mark = false) (plain' : isSpace mark' = false) (same : left ++ cs = left' ++ cs') :
    v = v' ∧ mark = mark' ∧ next = next' := by
  obtain rfl := value_start before before' item item' same
  obtain ⟨rfl, behind⟩ := sole _ _ item'
  exact ⟨rfl, spaces_unique after after' plain plain' behind⟩

private theorem lastItem_sole (before : Spaces left) (item : Reads (.value v) cs (right ++ ']' :: rest))
    (after : Spaces right) (sole : Sole (.value v) cs (right ++ ']' :: rest)) :
    Sole (.items [v]) (left ++ cs) rest := by
  intro items' rest' other
  generalize shape : left ++ cs = text at other
  cases other with
  | lastItem before' item' after' =>
    obtain ⟨rfl, -, rfl⟩ := item_unique before item after sole before' item' after' rfl rfl shape
    exact ⟨rfl, rfl⟩
  | item before' item' after' =>
    obtain ⟨-, marks, -⟩ := item_unique before item after sole before' item' after' rfl rfl shape
    exact absurd marks (by decide)

private theorem item_sole (before : Spaces left) (item : Reads (.value v) cs (right ++ ',' :: next))
    (after : Spaces right) (sole : Sole (.value v) cs (right ++ ',' :: next)) (others : Sole (.items items) next rest) :
    Sole (.items (v :: items)) (left ++ cs) rest := by
  intro items' rest' other
  generalize shape : left ++ cs = text at other
  cases other with
  | lastItem before' item' after' =>
    obtain ⟨-, marks, -⟩ := item_unique before item after sole before' item' after' rfl rfl shape
    exact absurd marks (by decide)
  | item before' item' after' others' =>
    obtain ⟨rfl, -, rfl⟩ := item_unique before item after sole before' item' after' rfl rfl shape
    obtain ⟨rfl, rfl⟩ := others _ _ others'
    exact ⟨rfl, rfl⟩

end

/-- The name of a member with the colon behind it, up to where the value begins. -/
inductive Named (meaning vs : List Char) : List Char → Prop
  | mk (before : Spaces left) (name : Body meaning cs (gap ++ ':' :: (gap' ++ vs))) (around : Spaces gap)
      (around' : Spaces gap') : Named meaning vs (left ++ '"' :: cs)

section
variable {left right right' cs vs vs' rest next next' meaning meaning' : List Char} {mark mark' : Char} {v v' : Value}
  {members : List (String × Value)}

private theorem noMembers_sole (spaces : Spaces left) :
    Sole (.value (.object [])) ('\x7b' :: (left ++ '\x7d' :: rest)) rest := by
  intro v' rest' other
  obtain ⟨rfl, between, spaces', whole⟩ | ⟨members, rfl, inside⟩ := reads_object other
  · exact ⟨rfl, (spaces_unique spaces spaces' (by decide) (by decide) whole).2⟩
  · exact absurd inside (not_members spaces)

private theorem object_sole (inside : Reads (.members members) cs rest) (sole : Sole (.members members) cs rest) :
    Sole (.value (.object members)) ('\x7b' :: cs) rest := by
  intro v' rest' other
  obtain ⟨rfl, between, spaces', rfl⟩ | ⟨members', rfl, inside'⟩ := reads_object other
  · exact absurd inside (not_members spaces')
  · obtain ⟨rfl, rfl⟩ := sole _ _ inside'
    exact ⟨rfl, rfl⟩

/-- What a member is and which mark stands behind it. -/
private theorem member_unique (named : Named meaning vs cs) (value : Reads (.value v) vs (right ++ mark :: next))
    (after : Spaces right) (sole : Sole (.value v) vs (right ++ mark :: next)) (named' : Named meaning' vs' cs)
    (value' : Reads (.value v') vs' (right' ++ mark' :: next')) (after' : Spaces right')
    (plain : isSpace mark = false) (plain' : isSpace mark' = false) :
    meaning = meaning' ∧ v = v' ∧ mark = mark' ∧ next = next' := by
  obtain ⟨before, name, around, behind⟩ := named
  generalize shape : _ ++ '"' :: _ = text at named'
  obtain ⟨before', name', around', behind'⟩ := named'
  obtain rfl := (spaces_unique before before' rfl rfl shape).2
  obtain ⟨rfl, colon⟩ := name.unique name'
  have start := (spaces_unique around around' rfl rfl colon).2
  exact ⟨rfl, item_unique behind value after sole behind' value' after' plain plain' start⟩

private theorem lastMember_sole (named : Named meaning vs cs) (value : Reads (.value v) vs (right ++ '\x7d' :: rest))
    (after : Spaces right) (sole : Sole (.value v) vs (right ++ '\x7d' :: rest)) :
    Sole (.members [(String.ofList meaning, v)]) cs rest := by
  intro members' rest' other
  cases other with
  | lastMember before' name' around' behind' value' after' =>
    have named' := Named.mk before' name' around' behind'
    obtain ⟨rfl, rfl, -, rfl⟩ := member_unique named value after sole named' value' after' rfl rfl
    exact ⟨rfl, rfl⟩
  | member before' name' around' behind' value' after' =>
    have named' := Named.mk before' name' around' behind'
    obtain ⟨-, -, marks, -⟩ := member_unique named value after sole named' value' after' rfl rfl
    exact absurd marks (by decide)

private theorem member_sole (named : Named meaning vs cs) (value : Reads (.value v) vs (right ++ ',' :: next))
    (after : Spaces right) (sole : Sole (.value v) vs (right ++ ',' :: next))
    (others : Sole (.members members) next rest) :
    Sole (.members ((String.ofList meaning, v) :: members)) cs rest := by
  intro members' rest' other
  cases other with
  | lastMember before' name' around' behind' value' after' =>
    have named' := Named.mk before' name' around' behind'
    obtain ⟨-, -, marks, -⟩ := member_unique named value after sole named' value' after' rfl rfl
    exact absurd marks (by decide)
  | member before' name' around' behind' value' after' others' =>
    have named' := Named.mk before' name' around' behind'
    obtain ⟨rfl, rfl, -, rfl⟩ := member_unique named value after sole named' value' after' rfl rfl
    obtain ⟨rfl, rfl⟩ := others _ _ others'
    exact ⟨rfl, rfl⟩

end

theorem Reads.sole {phrase : Phrase} {cs rest : List Char} (reads : Reads phrase cs rest) : Sole phrase cs rest := by
  induction reads with
  | null =>
    intro v' rest' other
    obtain ⟨rfl, ⟨⟩⟩ := reads_null other
    exact ⟨rfl, rfl⟩
  | true =>
    intro v' rest' other
    obtain ⟨rfl, ⟨⟩⟩ := reads_true other
    exact ⟨rfl, rfl⟩
  | false =>
    intro v' rest' other
    obtain ⟨rfl, ⟨⟩⟩ := reads_false other
    exact ⟨rfl, rfl⟩
  | number negative whole fraction power ends => exact number_sole whole fraction power ends
  | text body => exact text_sole body
  | noItems spaces => exact noItems_sole spaces
  | array inside sole => exact array_sole inside sole
  | lastItem before item after sole => exact lastItem_sole before item after sole
  | item before item after _ sole others => exact item_sole before item after sole others
  | noMembers spaces => exact noMembers_sole spaces
  | object inside sole => exact object_sole inside sole
  | lastMember before name around behind value after sole =>
    exact lastMember_sole ⟨before, name, around, behind⟩ value after sole
  | member before name around behind value after _ sole others =>
    exact member_sole ⟨before, name, around, behind⟩ value after sole others

theorem Document.unique {text : String} {v v' : Value} (document : Document text v) (other : Document text v') :
    v = v' := by
  obtain ⟨before, cs, after, spaces, _, whole, reads⟩ := document
  obtain ⟨before', cs', after', spaces', _, whole', reads'⟩ := other
  obtain rfl := value_start spaces spaces' reads reads' (whole.symm.trans whole')
  exact (reads.sole _ _ reads').1

end Reckoner.Proofs.JsonGrammar
