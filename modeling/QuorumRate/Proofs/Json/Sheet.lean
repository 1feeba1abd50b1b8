import QuorumRate.Proofs.Json.Reading

/-! Objects with values put into their members, in place of those laid out. Such an object is read
with what is put in; but when that is a whole number too long to be read, nothing around it is. -/
namespace QuorumRate.Json

section
variable {item : Text → Except Fault (Json × Text)}

structure Fails (item : Text → Except Fault (Json × Text)) (s : Slot Json) : Prop where
  lead : Begins s.text
  fail : ∀ rest, Follows rest → ∃ digits, item (s.text ++ rest) = .error (.longInteger digits)

theorem readMembersStop {first : Member} (named : Named first) (fails : Fails item first.value)
    (more : List Member) (found : List (Text × Json)) (fuel : Nat) (behind : Text) :
    ∃ digits, readMembers item found (fuel + 1)
        (first.rest ++ (first.value.after.1 ++ continued Member.written '\x7d' more behind)) =
      .error (.longInteger digits) := by
  obtain ⟨digits, fail⟩ := fails.fail _ (gapFollows first.value.after
    (continuedFollows Member.written (.inr rfl) more behind))
  refine ⟨digits, ?_⟩
  rw [readMembers, named.read, fail]
  rfl

theorem readMembersFails {first : Member} {more : List Member}
    (named : ∀ m ∈ first :: more, Named m)
    (each : ∀ m ∈ first :: more, Reads item m.value ∨ Fails item m.value)
    (long : ∃ m ∈ first :: more, Fails item m.value) (found : List (Text × Json)) {fuel : Nat}
    (enough : more.length < fuel) (behind : Text) :
    ∃ digits, readMembers item found fuel
        (first.rest ++ (first.value.after.1 ++ continued Member.written '\x7d' more behind)) =
      .error (.longInteger digits) := by
  induction more generalizing first found fuel with
  | nil =>
    obtain ⟨fuel, rfl⟩ := Nat.exists_eq_succ_of_ne_zero (Nat.ne_of_gt enough)
    obtain ⟨m, member, fails⟩ := long
    cases List.mem_singleton.mp member
    exact readMembersStop (named _ member) fails [] found fuel behind
  | cons second more ih =>
    obtain ⟨fuel, rfl⟩ := Nat.exists_eq_succ_of_ne_zero (Nat.ne_of_gt (Nat.zero_lt_of_lt enough))
    have own := named first List.mem_cons_self
    have others : ∀ m ∈ second :: more, Named m :=
      fun m member => named m (List.mem_cons_of_mem first member)
    by_cases fails : Fails item first.value
    · exact readMembersStop own fails (second :: more) found fuel behind
    have reads := (each first List.mem_cons_self).resolve_right fails
    have later : ∃ m ∈ second :: more, Fails item m.value := by
      obtain ⟨m, member, long⟩ := long
      rcases List.mem_cons.mp member with rfl | member
      · exact absurd long fails
      · exact ⟨m, member, long⟩
    rw [readMembersNext ⟨own.name, own.scalar, reads⟩ (others second List.mem_cons_self)]
    exact ih others (fun m member => each m (List.mem_cons_of_mem first member)) later
      (first.entry :: found) (Nat.lt_of_succ_lt_succ enough)

theorem readObjectFails {first : Member} {more : List Member}
    (named : ∀ m ∈ first :: more, Named m)
    (each : ∀ m ∈ first :: more, Reads item m.value ∨ Fails item m.value)
    (long : ∃ m ∈ first :: more, Fails item m.value) (behind : Text) :
    ∃ digits, readObject item (listed Member.written first more ++ .ofChar '\x7d' :: behind) =
      .error (.longInteger digits) := by
  obtain ⟨fuel, enough, opened⟩ :=
    readObjectMembers item (named first List.mem_cons_self) more behind
  obtain ⟨digits, fail⟩ := readMembersFails named each long [] enough behind
  exact ⟨digits, by rw [opened, fail]; rfl⟩

theorem readArrayFails {first : Slot Json} (fails : Fails item first) (more : List (Slot Json))
    (rest : Text) : ∃ digits, readArray item
      (listed Slot.written first more ++ .ofChar ']' :: rest) = .error (.longInteger digits) := by
  obtain ⟨fuel, enough, opened⟩ := readArrayItems item fails.lead more rest
  obtain ⟨fuel, rfl⟩ := Nat.exists_eq_succ_of_ne_zero (Nat.ne_of_gt (Nat.zero_lt_of_lt enough))
  obtain ⟨digits, fail⟩ := fails.fail _ (gapFollows first.after
    (continuedFollows Slot.written (.inl rfl) more rest))
  refine ⟨digits, ?_⟩
  rw [opened, readItems, fail]
  rfl

end

theorem readWholeFails {nesting : Nat} {slot : Slot Json} (fails : Fails (readValue nesting) slot) :
    ∃ digits, readWhole nesting slot.written = .error (.longInteger digits) := by
  obtain ⟨digits, fail⟩ := fails.fail _ (gapFollowsEnd slot.after)
  refine ⟨digits, ?_⟩
  unfold readWhole
  rw [slotSkipEnd fails.lead, fail]
  rfl

/-! Sheets. -/

structure Member.Spelled (m : Member) : Prop where
  name : SpellsText m.name.value m.name.text
  scalar : Scalar m.name.value
  value : Spells m.value.value m.value.text
  exact : Exact 200 m.value.value

structure Sheet where
  before : Gap
  first : Member
  more : List Member
  after : Gap
  distinct : ((first :: more).map (·.name.value)).Nodup
  spelled : ∀ m ∈ first :: more, m.Spelled

def Member.fill (fills : List (Text × Slot Json)) (m : Member) : Member :=
  { m with value := (Keyed.find? fills m.name.value).getD m.value }

namespace Sheet
variable (sheet : Sheet) {fills : List (Text × Slot Json)}

def Has (name : String) : Prop :=
  ∃ m ∈ sheet.first :: sheet.more, m.name.value = Text.ofString name

def filled (fills : List (Text × Slot Json)) : Slot Json where
  before := sheet.before
  value := .object (((sheet.first :: sheet.more).map (Member.fill fills)).map Member.entry)
  text := .ofChar '\x7b' :: (listed Member.written (sheet.first.fill fills)
    (sheet.more.map (Member.fill fills)) ++ [.ofChar '\x7d'])
  after := sheet.after

theorem filledMembers (P : Slot Json → Prop) (own : ∀ m : Member, m.Spelled → P m.value)
    (each : ∀ f ∈ fills, P f.2) : ∀ m ∈ sheet.first :: sheet.more, P (m.fill fills).value := by
  intro m member
  unfold Member.fill
  cases found : Keyed.find? fills m.name.value with
  | none => exact own m (sheet.spelled m member)
  | some slot =>
    obtain ⟨f, present, rfl⟩ := Option.map_eq_some_iff.mp found
    exact each f (List.mem_of_find?_eq_some present)

theorem filledNamed (leads : ∀ f ∈ fills, Begins f.2.text) :
    ∀ m ∈ (sheet.first :: sheet.more).map (Member.fill fills), Named m := by
  rw [List.forall_mem_map]
  intro m member
  have spelled := sheet.spelled m member
  have lead := sheet.filledMembers (fun s => Begins s.text) (fun _ own => own.value.lead) leads m
    member
  exact ⟨spelled.name, spelled.scalar, lead⟩

theorem filledNames : ((((sheet.first :: sheet.more).map (Member.fill fills)).map
    Member.entry).map (·.1)).Nodup := by
  rw [List.map_map, List.map_map]
  exact sheet.distinct

theorem filledMember {name : String} {slot : Slot Json} (has : sheet.Has name)
    (found : Keyed.find? fills (Text.ofString name) = some slot) :
    (sheet.filled fills).value.member name = .ok slot.value := by
  obtain ⟨m, member, same⟩ := has
  have entry : (m.fill fills).entry = (Text.ofString name, slot.value) := by
    rw [Member.entry, Member.fill, same, found]
    rfl
  have among : (Text.ofString name, slot.value) ∈
      ((sheet.first :: sheet.more).map (Member.fill fills)).map Member.entry :=
    entry ▸ List.mem_map_of_mem (List.mem_map_of_mem member)
  have own := Keyed.findOwn sheet.filledNames among
  unfold filled Json.member
  dsimp only at own ⊢
  rw [own]

theorem filledWritable (each : ∀ f ∈ fills, ∀ c ∈ f.2.text, Writable c) :
    ∀ c ∈ (sheet.filled fills).text, Writable c := by
  have members : ∀ m ∈ (sheet.first :: sheet.more).map (Member.fill fills),
      ∀ c ∈ m.written, Writable c := by
    rw [List.forall_mem_map]
    intro m member
    have spelled := sheet.spelled m member
    have value := sheet.filledMembers (fun s => ∀ c ∈ s.text, Writable c)
      (fun _ own => own.value.writable own.exact) each m member
    exact memberWritable (textWritable spelled.name spelled.scalar) value
  exact enclosedWritable (by decide) (by decide) (listedWritable members)

variable {fuel : Nat}

theorem filledReads (deep : 200 ≤ fuel) (each : ∀ f ∈ fills, Reads (readValue fuel) f.2) :
    Reads (readValue (fuel + 1)) (sheet.filled fills) := by
  have members : ∀ m ∈ (sheet.first :: sheet.more).map (Member.fill fills),
      ReadsMember (readValue fuel) m := by
    rw [List.forall_mem_map]
    intro m member
    have spelled := sheet.spelled m member
    have value := sheet.filledMembers (Reads (readValue fuel))
      (fun _ own => own.value.reads own.exact deep) each m member
    exact ⟨spelled.name, spelled.scalar, value⟩
  refine ⟨⟨_, _, rfl, by decide⟩, fun rest _ => ?_⟩
  have read := readObjectWritten members sheet.filledNames rest
  simp [filled, readValue, read]

theorem filledFails (deep : 200 ≤ fuel)
    (each : ∀ f ∈ fills, Reads (readValue fuel) f.2 ∨ Fails (readValue fuel) f.2) {name : String}
    {slot : Slot Json} (has : sheet.Has name)
    (found : Keyed.find? fills (Text.ofString name) = some slot)
    (fails : Fails (readValue fuel) slot) : Fails (readValue (fuel + 1)) (sheet.filled fills) := by
  have named := sheet.filledNamed fun f member => (each f member).elim Reads.lead Fails.lead
  have values : ∀ m ∈ (sheet.first :: sheet.more).map (Member.fill fills),
      Reads (readValue fuel) m.value ∨ Fails (readValue fuel) m.value := by
    rw [List.forall_mem_map]
    exact sheet.filledMembers (fun s => Reads (readValue fuel) s ∨ Fails (readValue fuel) s)
      (fun _ own => .inl (own.value.reads own.exact deep)) each
  have long : ∃ m ∈ (sheet.first :: sheet.more).map (Member.fill fills),
      Fails (readValue fuel) m.value := by
    obtain ⟨m, member, same⟩ := has
    have own : (m.fill fills).value = slot := by rw [Member.fill, same, found, Option.getD_some]
    exact ⟨_, List.mem_map_of_mem member, own ▸ fails⟩
  refine ⟨⟨_, _, rfl, by decide⟩, fun rest _ => ?_⟩
  obtain ⟨digits, fail⟩ := readObjectFails named values long rest
  exact ⟨digits, by simp [filled, readValue, fail]⟩

end Sheet
end QuorumRate.Json
