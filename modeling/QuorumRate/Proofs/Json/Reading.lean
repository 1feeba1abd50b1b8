import QuorumRate.Proofs.Json.Token

/-! Reading the texts of a value. What is read is the value itself, and what is left is what follows
its text, however the text is laid out. -/
namespace QuorumRate.Json

open Decimal (Parts signText)

theorem skipGap (gap : Gap) {c : CodePoint} (other : isBlank c = false) (rest : Text) :
    skipBlank (gap.1 ++ c :: rest) = c :: rest := by
  rw [skipBlank, List.dropWhile_append_of_pos gap.2]
  simp [other]

theorem skipGapEnd (gap : Gap) : skipBlank gap.1 = [] := by
  rw [← List.append_nil gap.1, skipBlank, List.dropWhile_append_of_pos gap.2]
  rfl

theorem gapFollows (gap : Gap) {rest : Text} (follows : Follows rest) :
    Follows (gap.1 ++ rest) := by
  obtain ⟨gap, blank⟩ := gap
  cases gap with
  | nil => exact follows
  | cons b gap =>
    have own := blank b List.mem_cons_self
    simp [isBlank] at own
    simp [Follows, CodePoint.isAsciiDigit, CodePoint.is]
    omega

theorem closeFollows {close : Char} (closes : close = ',' ∨ close = ']' ∨ close = '\x7d')
    (rest : Text) : Follows (.ofChar close :: rest) := by
  rcases closes with rfl | rfl | rfl <;> simp [Follows]

/-! Items and members, given a reader that reads each of their values. -/

def continued {α : Type} (written : α → Text) (close : Char) (more : List α) (rest : Text) : Text :=
  (more.flatMap fun next => .ofChar ',' :: written next) ++ .ofChar close :: rest

section
variable {α : Type} {written : α → Text} {close : Char}

@[simp] theorem continuedNil (rest : Text) :
    continued written close [] rest = .ofChar close :: rest := rfl

@[simp] theorem continuedCons (next : α) (more : List α) (rest : Text) :
    continued written close (next :: more) rest =
      .ofChar ',' :: (written next ++ continued written close more rest) := by
  simp [continued]

theorem continuedLength (more : List α) (rest : Text) :
    more.length < (continued written close more rest).length := by
  induction more with
  | nil => simp
  | cons next more ih =>
    simp only [continuedCons, List.length_cons, List.length_append]
    omega

end

section
variable {item : Text → Except Fault (Json × Text)}

theorem continuedFollows {α : Type} (written : α → Text) {close : Char}
    (closes : close = ']' ∨ close = '\x7d') (more : List α) (rest : Text) :
    Follows (continued written close more rest) := by
  cases more with
  | nil => exact closeFollows (.inr closes) rest
  | cons next more =>
    rw [continuedCons]
    exact closeFollows (.inl rfl) _

structure Reads (item : Text → Except Fault (Json × Text)) (s : Slot Json) : Prop where
  lead : Begins s.text
  read : ∀ rest, Follows rest → item (s.text ++ rest) = .ok (s.value, rest)

theorem slotSkip {s : Slot Json} (lead : Begins s.text) (rest : Text) :
    skipBlank (s.written ++ rest) = s.text ++ (s.after.1 ++ rest) := by
  obtain ⟨c, more, split, opens⟩ := lead
  rw [Slot.written, List.append_assoc, List.append_assoc, split, List.cons_append,
    skipGap s.before opens.2.1]

theorem readItemsWritten {first : Slot Json} {more : List (Slot Json)}
    (reads : ∀ s ∈ first :: more, Reads item s) (found : List Json) {fuel : Nat}
    (enough : more.length < fuel) (rest : Text) :
    readItems item found fuel
        (first.text ++ (first.after.1 ++ continued Slot.written ']' more rest)) =
      .ok (found.reverse ++ (first :: more).map (·.value), rest) := by
  induction more generalizing first found fuel with
  | nil =>
    obtain ⟨fuel, rfl⟩ := Nat.exists_eq_succ_of_ne_zero (Nat.ne_of_gt enough)
    have own := (reads first List.mem_cons_self).read _
      (gapFollows first.after (closeFollows (.inr (.inl rfl)) rest))
    have closed := skipGap first.after (c := .ofChar ']') (by decide) rest
    rw [continuedNil, readItems, own]
    simp [bind, Except.bind, closed]
  | cons second more ih =>
    obtain ⟨fuel, rfl⟩ := Nat.exists_eq_succ_of_ne_zero (Nat.ne_of_gt (Nat.zero_lt_of_lt enough))
    have own := (reads first List.mem_cons_self).read _ (gapFollows first.after
      (closeFollows (.inl rfl) (second.written ++ continued Slot.written ']' more rest)))
    have later : ∀ s ∈ second :: more, Reads item s :=
      fun s member => reads s (List.mem_cons_of_mem first member)
    have goesOn := skipGap first.after (c := .ofChar ',') (by decide)
      (second.written ++ continued Slot.written ']' more rest)
    have next := slotSkip (later second List.mem_cons_self).lead
      (continued Slot.written ']' more rest)
    have further := ih later (first.value :: found) (Nat.lt_of_succ_lt_succ enough)
    rw [continuedCons, readItems, own]
    simp [bind, Except.bind, goesOn, next, further]

theorem readArrayItems (item : Text → Except Fault (Json × Text)) {first : Slot Json}
    (lead : Begins first.text) (more : List (Slot Json)) (rest : Text) :
    ∃ fuel, more.length < fuel ∧
      readArray item (listed Slot.written first more ++ .ofChar ']' :: rest) =
        (readItems item [] fuel
          (first.text ++ (first.after.1 ++ continued Slot.written ']' more rest))).map
            fun (vs, rest) => (.array vs, rest) := by
  have skipped := slotSkip lead (continued Slot.written ']' more rest)
  obtain ⟨c, behind, split, opens⟩ := lead
  have enough : more.length <
      (first.text ++ (first.after.1 ++ continued Slot.written ']' more rest)).length := by
    have count : more.length < (continued Slot.written ']' more rest).length :=
      continuedLength more rest
    simp only [List.length_append]
    omega
  have together : listed Slot.written first more ++ .ofChar ']' :: rest =
      first.written ++ continued Slot.written ']' more rest := List.append_assoc _ _ _
  refine ⟨_, enough, ?_⟩
  rw [split, List.cons_append] at skipped ⊢
  unfold readArray
  rw [together, skipped]
  dsimp only
  rw [opens.2.2, if_neg Bool.false_ne_true]

theorem readArrayWritten {first : Slot Json} {more : List (Slot Json)}
    (reads : ∀ s ∈ first :: more, Reads item s) (rest : Text) :
    readArray item (listed Slot.written first more ++ .ofChar ']' :: rest) =
      .ok (.array ((first :: more).map (·.value)), rest) := by
  obtain ⟨fuel, enough, opened⟩ :=
    readArrayItems item (reads first List.mem_cons_self).lead more rest
  rw [opened, readItemsWritten reads [] enough rest]
  rfl

structure ReadsMember (item : Text → Except Fault (Json × Text)) (m : Member) : Prop where
  name : SpellsText m.name.value m.name.text
  scalar : Scalar m.name.value
  value : Reads item m.value

def Member.rest (m : Member) : Text :=
  m.name.text ++ (m.name.after.1 ++ .ofChar ':' :: (m.value.before.1 ++ m.value.text))

structure Named (m : Member) : Prop where
  name : SpellsText m.name.value m.name.text
  scalar : Scalar m.name.value
  lead : Begins m.value.text

namespace Named
variable {m : Member}

theorem quote (named : Named m) : ∃ more, m.name.text = .ofChar '"' :: more := by
  obtain ⟨body, _, text⟩ := named.name
  exact ⟨_, text⟩

theorem skip (named : Named m) (behind : Text) :
    skipBlank (m.written ++ behind) = m.rest ++ (m.value.after.1 ++ behind) := by
  obtain ⟨more, split⟩ := named.quote
  have skipped := skipGap m.name.before (c := .ofChar '"') (by decide)
  simp [Member.written, Slot.written, Member.rest, split, skipped]

theorem read (named : Named m) (behind : Text) : readMember item (m.rest ++ behind) =
    (item (m.value.text ++ behind)).map fun (v, t) => ((m.name.value, v), t) := by
  obtain ⟨body, quotes, text⟩ := named.name
  obtain ⟨c, more, split, opens⟩ := named.lead
  have colon := skipGap m.name.after (c := .ofChar ':') (by decide)
    (m.value.before.1 ++ (m.value.text ++ behind))
  have gap := skipGap m.value.before opens.2.1 (more ++ behind)
  rw [← List.cons_append, ← split] at gap
  simp only [Member.rest, text, List.cons_append, List.append_assoc, List.nil_append, readMember,
    CodePoint.ofCharIs, beq_self_eq_true, if_true, readStringQuotes quotes named.scalar,
    List.reverse_nil, bind, Except.bind, colon, gap]
  cases item (m.value.text ++ behind) <;> rfl

end Named

theorem ReadsMember.named {m : Member} (reads : ReadsMember item m) : Named m :=
  ⟨reads.name, reads.scalar, reads.value.lead⟩

theorem ReadsMember.read {m : Member} (reads : ReadsMember item m) {behind : Text}
    (follows : Follows behind) : readMember item (m.rest ++ behind) = .ok (m.entry, behind) := by
  rw [reads.named.read, reads.value.read behind follows]
  rfl

theorem readMembersNext {first second : Member} (reads : ReadsMember item first)
    (named : Named second) (more : List Member) (found : List (Text × Json)) (fuel : Nat)
    (behind : Text) :
    readMembers item found (fuel + 1)
        (first.rest ++
          (first.value.after.1 ++ continued Member.written '\x7d' (second :: more) behind)) =
      readMembers item (first.entry :: found) fuel
        (second.rest ++
          (second.value.after.1 ++ continued Member.written '\x7d' more behind)) := by
  have own := reads.read (gapFollows first.value.after
    (continuedFollows Member.written (.inr rfl) (second :: more) behind))
  have goesOn := skipGap first.value.after (c := .ofChar ',') (by decide)
    (second.written ++ continued Member.written '\x7d' more behind)
  have next := named.skip (continued Member.written '\x7d' more behind)
  rw [readMembers, own, continuedCons]
  simp [bind, Except.bind, goesOn, next]

theorem readMembersWritten {first : Member} {more : List Member}
    (reads : ∀ m ∈ first :: more, ReadsMember item m) (found : List (Text × Json)) {fuel : Nat}
    (enough : more.length < fuel) (behind : Text) :
    readMembers item found fuel
        (first.rest ++ (first.value.after.1 ++ continued Member.written '\x7d' more behind)) =
      .ok (found.reverse ++ (first :: more).map Member.entry, behind) := by
  induction more generalizing first found fuel with
  | nil =>
    obtain ⟨fuel, rfl⟩ := Nat.exists_eq_succ_of_ne_zero (Nat.ne_of_gt enough)
    have own := (reads first List.mem_cons_self).read
      (gapFollows first.value.after (closeFollows (.inr (.inr rfl)) behind))
    have closed := skipGap first.value.after (c := .ofChar '\x7d') (by decide) behind
    rw [continuedNil, readMembers, own]
    simp [bind, Except.bind, closed]
  | cons second more ih =>
    obtain ⟨fuel, rfl⟩ := Nat.exists_eq_succ_of_ne_zero (Nat.ne_of_gt (Nat.zero_lt_of_lt enough))
    have later : ∀ m ∈ second :: more, ReadsMember item m :=
      fun m member => reads m (List.mem_cons_of_mem first member)
    have further := ih later (first.entry :: found) (Nat.lt_of_succ_lt_succ enough)
    rw [readMembersNext (reads first List.mem_cons_self)
      (later second List.mem_cons_self).named, further]
    simp

theorem readObjectMembers (item : Text → Except Fault (Json × Text)) {first : Member}
    (named : Named first) (more : List Member) (behind : Text) : ∃ fuel, more.length < fuel ∧
      readObject item (listed Member.written first more ++ .ofChar '\x7d' :: behind) =
        (readMembers item [] fuel
          (first.rest ++ (first.value.after.1 ++ continued Member.written '\x7d' more behind))).map
            fun (members, rest) => (.object (Keyed.distinct members), rest) := by
  obtain ⟨tail, split⟩ := named.quote
  have skipped := named.skip (continued Member.written '\x7d' more behind)
  have enough : more.length < (first.rest ++
      (first.value.after.1 ++ continued Member.written '\x7d' more behind)).length := by
    have count : more.length < (continued Member.written '\x7d' more behind).length :=
      continuedLength more behind
    simp only [List.length_append]
    omega
  have together : listed Member.written first more ++ .ofChar '\x7d' :: behind =
      first.written ++ continued Member.written '\x7d' more behind := List.append_assoc _ _ _
  refine ⟨_, enough, ?_⟩
  rw [Member.rest, split, List.cons_append, List.cons_append] at skipped ⊢
  unfold readObject
  rw [together, skipped]
  dsimp only
  rw [if_neg (by simp)]

theorem readObjectWritten {first : Member} {more : List Member}
    (reads : ∀ m ∈ first :: more, ReadsMember item m)
    (distinct : (((first :: more).map Member.entry).map (·.1)).Nodup) (behind : Text) :
    readObject item (listed Member.written first more ++ .ofChar '\x7d' :: behind) =
      .ok (.object ((first :: more).map Member.entry), behind) := by
  obtain ⟨fuel, enough, opened⟩ :=
    readObjectMembers item (reads first List.mem_cons_self).named more behind
  rw [opened, readMembersWritten reads [] enough behind]
  simp only [Except.map, List.reverse_nil, List.nil_append, Keyed.distinctSelf distinct]

end

/-! Values. -/

theorem readValueScalar {c : CodePoint} (quote : c.is '"' = false) (bracket : c.is '[' = false)
    (brace : c.is '\x7b' = false) (fuel : Nat) (rest : Text) :
    readValue fuel (c :: rest) = readScalar (c :: rest) := by
  unfold readValue
  simp [quote, bracket, brace]

theorem numeralLead (n : Numeral) : ∃ c rest, n.text = c :: rest ∧ Opens c ∧
    c.is '"' = false ∧ c.is '[' = false ∧ c.is '\x7b' = false := by
  obtain ⟨first, more, split, digit⟩ := n.unsignedLead
  rw [Numeral.text, split]
  exact numberLead n.negative digit more

theorem readValueNumeral (n : Numeral) (fuel : Nat) {rest : Text} (follows : Follows rest) :
    readValue fuel (n.text ++ rest) = (token n).value.map (·, rest) := by
  have read := readNumeral n follows
  obtain ⟨c, more, split, _, quote, bracket, brace⟩ := numeralLead n
  rw [split, List.cons_append] at read ⊢
  rw [readValueScalar quote bracket brace, read]

theorem readValueInt (negative : Bool) {n : Nat}
    (short : Decimal.digitCount n ≤ Text.maxDigits) (fuel : Nat) {rest : Text}
    (follows : Follows rest) : readValue fuel (signText negative ++ Text.digits n ++ rest) =
      .ok (.int (if negative then -n else n), rest) := by
  rw [← wholeNumeralText, readValueNumeral _ fuel follows, intValue negative short]
  rfl

theorem readValueDecimal (negative : Bool) {coefficient : Nat} {exponent : Int}
    (pointed : exponent ≠ 0) (readable : Decimal.isReadable coefficient exponent = true)
    (fuel : Nat) {rest : Text} (follows : Follows rest) :
    readValue fuel
        (.ofString (Decimal.toString (.finite negative coefficient exponent)) ++ rest) =
      .ok (.decimal (.finite negative coefficient exponent), rest) := by
  have prints := Parts.ofFinitePrints coefficient exponent
  rw [Decimal.printedText, ← prints.numeralText, readValueNumeral _ fuel follows,
    printedValue negative prints pointed readable]
  rfl

theorem readValueString (fuel : Nat) (rest : Text) :
    readValue fuel (.ofChar '"' :: rest) =
      (readString (.ofChar '"' :: rest) [] 0 rest).map fun (s, rest) => (.string s, rest) := by
  unfold readValue
  simp

theorem readWord (fuel : Nat) (rest : Text) :
    readValue fuel (.ofString "null" ++ rest) = .ok (.null, rest) ∧
      readValue fuel (.ofString "true" ++ rest) = .ok (.bool true, rest) ∧
      readValue fuel (.ofString "false" ++ rest) = .ok (.bool false, rest) := by
  simp [Text.ofString, readValueScalar, readScalar, constants, Text.dropWord?]

theorem readValueSpelled {v : Json} {t : Text} (spells : Spells v t) {depth : Nat}
    (exact : Exact depth v) {fuel : Nat} (deep : depth ≤ fuel) {rest : Text}
    (follows : Follows rest) : readValue fuel (t ++ rest) = .ok (v, rest) := by
  -- By the spelling. The parts of a value have other texts behind them, and one less of fuel.
  induction spells generalizing depth fuel rest with
  | null => exact (readWord fuel rest).1
  | bool b =>
    cases b with
    | true => exact (readWord fuel rest).2.1
    | false => exact (readWord fuel rest).2.2
  | int negative n =>
    cases exact with
    | int short =>
      have own : (if negative then -(n : Int) else n).natAbs = n := by cases negative <;> simp
      exact readValueInt negative (own ▸ short) fuel follows
  | decimal negative coefficient exponent =>
    cases exact with
    | decimal pointed readable => exact readValueDecimal negative pointed readable fuel follows
  | string text =>
    cases exact with
    | string scalar =>
      obtain ⟨body, quotes, rfl⟩ := text
      simp [readValueString, readStringQuotes quotes scalar, Except.map]
  | emptyArray gap =>
    cases exact with
    | @array depth _ each =>
      obtain ⟨fuel, rfl⟩ := Nat.exists_eq_succ_of_ne_zero (Nat.ne_of_gt (Nat.zero_lt_of_lt deep))
      have closed := skipGap gap (c := .ofChar ']') (by decide) rest
      simp [readValue, readArray, closed]
  | array first more each ih =>
    cases exact with
    | @array depth _ items =>
      obtain ⟨fuel, rfl⟩ := Nat.exists_eq_succ_of_ne_zero (Nat.ne_of_gt (Nat.zero_lt_of_lt deep))
      have reads : ∀ s ∈ first :: more, Reads (readValue fuel) s := fun s member =>
        ⟨(each s member).lead, fun rest follows =>
          ih s member (items _ (List.mem_map_of_mem member)) (Nat.le_of_succ_le_succ deep) follows⟩
      have read := readArrayWritten reads rest
      simp [readValue, read]
  | emptyObject gap =>
    cases exact with
    | @object depth _ distinct names each =>
      obtain ⟨fuel, rfl⟩ := Nat.exists_eq_succ_of_ne_zero (Nat.ne_of_gt (Nat.zero_lt_of_lt deep))
      have closed := skipGap gap (c := .ofChar '\x7d') (by decide) rest
      simp [readValue, readObject, closed]
  | object first more names each ih =>
    cases exact with
    | @object depth _ distinct scalars values =>
      obtain ⟨fuel, rfl⟩ := Nat.exists_eq_succ_of_ne_zero (Nat.ne_of_gt (Nat.zero_lt_of_lt deep))
      have reads : ∀ m ∈ first :: more, ReadsMember (readValue fuel) m := fun m member =>
        ⟨names m member, scalars _ (List.mem_map_of_mem member), (each m member).lead,
          fun rest follows => ih m member (values _ (List.mem_map_of_mem member))
            (Nat.le_of_succ_le_succ deep) follows⟩
      have read := readObjectWritten reads distinct rest
      simp [readValue, read]

theorem gapFollowsEnd (gap : Gap) : Follows gap.1 := by
  have last : Follows (gap.1 ++ []) := gapFollows gap nofun
  rwa [List.append_nil] at last

theorem slotSkipEnd {slot : Slot Json} (lead : Begins slot.text) :
    skipBlank slot.written = slot.text ++ slot.after.1 := by
  simpa using slotSkip lead []

theorem readWholeReads {nesting : Nat} {slot : Slot Json} (reads : Reads (readValue nesting) slot) :
    readWhole nesting slot.written = .ok slot.value := by
  have read := reads.read _ (gapFollowsEnd slot.after)
  have ended := skipGapEnd slot.after
  unfold readWhole
  rw [slotSkipEnd reads.lead, read]
  simp [bind, Except.bind, ended]

theorem Spells.reads {s : Slot Json} (spells : Spells s.value s.text) {depth fuel : Nat}
    (exact : Exact depth s.value) (deep : depth ≤ fuel) : Reads (readValue fuel) s :=
  ⟨spells.lead, fun _ follows => readValueSpelled spells exact deep follows⟩

theorem readWholeSpelled {depth nesting : Nat} {slot : Slot Json}
    (spells : Spells slot.value slot.text) (exact : Exact depth slot.value)
    (deep : depth ≤ nesting) : readWhole nesting slot.written = .ok slot.value :=
  readWholeReads (spells.reads exact deep)

end QuorumRate.Json
