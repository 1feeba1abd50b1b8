import QuorumRate.Json.Reader
import QuorumRate.Proofs.Decimal.Printed

/-! JSON texts of a value, as a relation. Blanks may stand around every token, and each character of
a string has several spellings; numbers have the one that they print as. -/
namespace QuorumRate.Json

def Scalar (t : Text) : Prop := ∀ c ∈ t, c.isSurrogate = false

instance (t : Text) : Decidable (Scalar t) :=
  inferInstanceAs (Decidable (∀ c ∈ t, c.isSurrogate = false))

/-- Values that a text holds in full, nested so deep at most: whole numbers short enough to be read,
and decimals within the bounds of all decimals. A decimal with exponent zero is left out, since it
prints as a whole number does. -/
inductive Exact : Nat → Json → Prop
  | null {depth} : Exact depth .null
  | bool {depth} (b : Bool) : Exact depth (.bool b)
  | int {depth n} (short : Decimal.digitCount n.natAbs ≤ Text.maxDigits) : Exact depth (.int n)
  | decimal {depth negative coefficient exponent} (pointed : exponent ≠ 0)
      (readable : Decimal.isReadable coefficient exponent = true) :
      Exact depth (.decimal (.finite negative coefficient exponent))
  | string {depth t} (scalar : Scalar t) : Exact depth (.string t)
  | array {depth items} (each : ∀ v ∈ items, Exact depth v) : Exact (depth + 1) (.array items)
  | object {depth members} (distinct : (members.map (·.1)).Nodup)
      (names : ∀ m ∈ members, Scalar m.1) (each : ∀ m ∈ members, Exact depth m.2) :
      Exact (depth + 1) (.object members)

abbrev Gap := { t : Text // ∀ c ∈ t, isBlank c = true }

def Hex (digit : CodePoint) (n : Nat) : Prop :=
  n < 16 ∧ (digit = .ofChar n.digitChar ∨ digit = .ofChar n.digitChar.toUpper)

inductive HexUnit : Nat → Text → Prop
  | digits {a b c d : CodePoint} {k l m n : Nat} (first : Hex a k) (second : Hex b l)
      (third : Hex c m) (fourth : Hex d n) :
      HexUnit (((k * 16 + l) * 16 + m) * 16 + n) [a, b, c, d]

def shortEscapes : List (Char × Char) := [
  ('"', '"'), ('\\', '\\'), ('/', '/'), ('b', '\x08'), ('f', '\x0c'), ('n', '\n'), ('r', '\r'),
  ('t', '\t')]

inductive Escapes : CodePoint → Text → Prop
  | short {letter char} (known : (letter, char) ∈ shortEscapes) :
      Escapes (.ofChar char) [.ofChar letter]
  | unit {c digits} (hex : HexUnit c.val digits) : Escapes c (.ofChar 'u' :: digits)
  | pair {c high low} (wide : 0x10000 ≤ c.val)
      (first : HexUnit (0xD800 + (c.val - 0x10000) / 0x400) high)
      (second : HexUnit (0xDC00 + (c.val - 0x10000) % 0x400) low) :
      Escapes c (.ofChar 'u' :: high ++ .ofChar '\\' :: .ofChar 'u' :: low)

inductive Quotes : Text → Text → Prop
  | nil : Quotes [] []
  | plain {c s t} (quote : c.is '"' = false) (backslash : c.is '\\' = false)
      (printable : 0x20 ≤ c.val) (rest : Quotes s t) : Quotes (c :: s) (c :: t)
  | escaped {c w s t} (escapes : Escapes c w) (rest : Quotes s t) :
      Quotes (c :: s) (.ofChar '\\' :: w ++ t)

def SpellsText (s t : Text) : Prop :=
  ∃ body, Quotes s body ∧ t = .ofChar '"' :: (body ++ [.ofChar '"'])

structure Slot (α : Type) where
  before : Gap
  value : α
  text : Text
  after : Gap

def Slot.written {α : Type} (s : Slot α) : Text := s.before.1 ++ (s.text ++ s.after.1)

structure Member where
  name : Slot Text
  value : Slot Json

namespace Member

def entry (m : Member) : Text × Json := (m.name.value, m.value.value)

def written (m : Member) : Text := m.name.written ++ .ofChar ':' :: m.value.written

end Member

def listed {α : Type} (written : α → Text) (first : α) (more : List α) : Text :=
  written first ++ more.flatMap fun next => .ofChar ',' :: written next

inductive Spells : Json → Text → Prop
  | null : Spells .null (.ofString "null")
  | bool (b : Bool) : Spells (.bool b) (.ofString (if b then "true" else "false"))
  | int (negative : Bool) (n : Nat) :
      Spells (.int (if negative then -n else n)) (Decimal.signText negative ++ Text.digits n)
  | decimal (negative : Bool) (coefficient : Nat) (exponent : Int) :
      Spells (.decimal (.finite negative coefficient exponent))
        (.ofString (Decimal.toString (.finite negative coefficient exponent)))
  | string {s t} (text : SpellsText s t) : Spells (.string s) t
  | emptyArray (gap : Gap) : Spells (.array []) (.ofChar '[' :: (gap.1 ++ [.ofChar ']']))
  | array (first : Slot Json) (more : List (Slot Json))
      (each : ∀ s ∈ first :: more, Spells s.value s.text) :
      Spells (.array ((first :: more).map (·.value)))
        (.ofChar '[' :: (listed Slot.written first more ++ [.ofChar ']']))
  | emptyObject (gap : Gap) :
      Spells (.object []) (.ofChar '\x7b' :: (gap.1 ++ [.ofChar '\x7d']))
  | object (first : Member) (more : List Member)
      (names : ∀ m ∈ first :: more, SpellsText m.name.value m.name.text)
      (each : ∀ m ∈ first :: more, Spells m.value.value m.value.text) :
      Spells (.object ((first :: more).map Member.entry))
        (.ofChar '\x7b' :: (listed Member.written first more ++ [.ofChar '\x7d']))

/-! Every string and every exact value has a text. -/

theorem hexUnitExists {n : Nat} (small : n < 0x10000) : ∃ digits, HexUnit n digits := by
  have hex {k : Nat} (digit : k < 16) : Hex (.ofChar k.digitChar) k := ⟨digit, .inl rfl⟩
  have unit := HexUnit.digits (hex (k := n / 4096) (by omega)) (hex (k := n / 256 % 16) (by omega))
    (hex (k := n / 16 % 16) (by omega)) (hex (k := n % 16) (by omega))
  have whole : ((n / 4096 * 16 + n / 256 % 16) * 16 + n / 16 % 16) * 16 + n % 16 = n := by omega
  rw [whole] at unit
  exact ⟨_, unit⟩

theorem quotesExists (s : Text) : ∃ t, Quotes s t := by
  induction s with
  | nil => exact ⟨[], .nil⟩
  | cons c s ih =>
    obtain ⟨t, rest⟩ := ih
    by_cases plain : 0x20 ≤ c.val ∧ c.is '"' = false ∧ c.is '\\' = false
    · exact ⟨c :: t, .plain plain.2.1 plain.2.2 plain.1 rest⟩
    · have small : c.val < 0x10000 := by
        simp [CodePoint.is] at plain
        omega
      obtain ⟨digits, unit⟩ := hexUnitExists small
      exact ⟨_, .escaped (.unit unit) rest⟩

def Plain (t : Text) : Prop := ∀ c ∈ t, 0x20 ≤ c.val ∧ c.is '"' = false ∧ c.is '\\' = false

instance (t : Text) : Decidable (Plain t) :=
  inferInstanceAs (Decidable (∀ c ∈ t, 0x20 ≤ c.val ∧ c.is '"' = false ∧ c.is '\\' = false))

def enclosed (t : Text) : Text := .ofChar '"' :: (t ++ [.ofChar '"'])

theorem quotesPlain {t : Text} (plain : Plain t) : Quotes t t := by
  induction t with
  | nil => exact .nil
  | cons c t ih =>
    obtain ⟨printable, quote, backslash⟩ := plain c List.mem_cons_self
    have rest := ih fun d member => plain d (List.mem_cons_of_mem c member)
    exact .plain quote backslash printable rest

theorem spellsPlain {t : Text} (plain : Plain t) : SpellsText t (enclosed t) :=
  ⟨t, quotesPlain plain, rfl⟩

theorem spellsTextExists (s : Text) : ∃ t, SpellsText s t := by
  obtain ⟨body, quotes⟩ := quotesExists s
  exact ⟨_, body, quotes, rfl⟩

def noGap : Gap := ⟨[], nofun⟩

theorem mapExists {α β : Type} {f : β → α} {P : β → Prop} {items : List α}
    (each : ∀ v ∈ items, ∃ b, f b = v ∧ P b) : ∃ bs : List β, bs.map f = items ∧ ∀ b ∈ bs, P b := by
  induction items with
  | nil => exact ⟨[], rfl, nofun⟩
  | cons v items ih =>
    obtain ⟨b, own, holds⟩ := each v List.mem_cons_self
    obtain ⟨bs, values, rest⟩ := ih fun w member => each w (List.mem_cons_of_mem v member)
    exact ⟨b :: bs, by rw [List.map_cons, own, values], List.forall_mem_cons.mpr ⟨holds, rest⟩⟩

theorem spellingExists {depth : Nat} {v : Json} (exact : Exact depth v) : ∃ t, Spells v t := by
  induction exact with
  | null => exact ⟨_, .null⟩
  | bool b => exact ⟨_, .bool b⟩
  | @int depth n short =>
    have whole : (if decide (n < 0) = true then -(n.natAbs : Int) else n.natAbs) = n := by
      simp only [decide_eq_true_eq]
      split <;> omega
    exact ⟨_, whole ▸ Spells.int (decide (n < 0)) n.natAbs⟩
  | decimal pointed readable => exact ⟨_, .decimal _ _ _⟩
  | string scalar =>
    obtain ⟨t, text⟩ := spellsTextExists _
    exact ⟨t, .string text⟩
  | array each ih =>
    obtain ⟨slots, rfl, spelled⟩ := mapExists (f := Slot.value)
      (P := fun s => Spells s.value s.text) fun v member => by
        obtain ⟨t, spells⟩ := ih v member
        exact ⟨⟨noGap, v, t, noGap⟩, rfl, spells⟩
    cases slots with
    | nil => exact ⟨_, .emptyArray noGap⟩
    | cons first more => exact ⟨_, .array first more spelled⟩
  | object distinct names each ih =>
    obtain ⟨slots, rfl, spelled⟩ := mapExists (f := Member.entry)
      (P := fun m => SpellsText m.name.value m.name.text ∧ Spells m.value.value m.value.text)
      fun m member => by
        obtain ⟨name, text⟩ := spellsTextExists m.1
        obtain ⟨t, spells⟩ := ih m member
        exact ⟨⟨⟨noGap, m.1, name, noGap⟩, ⟨noGap, m.2, t, noGap⟩⟩, rfl, text, spells⟩
    cases slots with
    | nil => exact ⟨_, .emptyObject noGap⟩
    | cons first more =>
      exact ⟨_, .object first more (fun m member => (spelled m member).1)
        fun m member => (spelled m member).2⟩

/-! How the text of a value begins. -/

def Opens (c : CodePoint) : Prop := c.val < 0x80 ∧ isBlank c = false ∧ c.is ']' = false

instance (c : CodePoint) : Decidable (Opens c) :=
  inferInstanceAs (Decidable (c.val < 0x80 ∧ isBlank c = false ∧ c.is ']' = false))

abbrev Begins (t : Text) : Prop := ∃ c rest, t = c :: rest ∧ Opens c

theorem digitOpens {c : CodePoint} (digit : c.isAsciiDigit = true) : Opens c := by
  have bounds := CodePoint.digitIff.mp digit
  refine ⟨by omega, ?_, CodePoint.digitIs digit (by decide)⟩
  simp [isBlank]
  omega

theorem numberLead (negative : Bool) {first : CodePoint} (digit : first.isAsciiDigit = true)
    (more : Text) : ∃ c rest, Decimal.signText negative ++ first :: more = c :: rest ∧ Opens c ∧
      c.is '"' = false ∧ c.is '[' = false ∧ c.is '\x7b' = false := by
  cases negative with
  | true => exact ⟨_, _, rfl, by decide, by decide, by decide, by decide⟩
  | false =>
    exact ⟨first, more, rfl, digitOpens digit, CodePoint.digitIs digit (by decide),
      CodePoint.digitIs digit (by decide), CodePoint.digitIs digit (by decide)⟩

theorem Spells.lead {v : Json} {t : Text} (spells : Spells v t) : Begins t := by
  cases spells with
  | null => exact ⟨_, _, rfl, by decide⟩
  | bool b => cases b <;> exact ⟨_, _, rfl, by decide⟩
  | int negative n =>
    obtain ⟨first, more, split, _⟩ := Text.digitsHead n
    have digit := Text.digitsInside n first (by simp [split])
    obtain ⟨c, rest, lead, opens, _⟩ := numberLead negative digit more
    exact ⟨c, rest, by rw [split, lead], opens⟩
  | decimal negative coefficient exponent =>
    have prints := Decimal.Parts.ofFinitePrints coefficient exponent
    obtain ⟨first, more, split, digit⟩ := prints.textLead
    obtain ⟨c, rest, lead, opens, _⟩ := numberLead negative digit more
    exact ⟨c, rest, by rw [Decimal.printedText, split, lead], opens⟩
  | string text =>
    obtain ⟨body, _, rfl⟩ := text
    exact ⟨_, _, rfl, by decide⟩
  | emptyArray gap => exact ⟨_, _, rfl, by decide⟩
  | array first more each => exact ⟨_, _, rfl, by decide⟩
  | emptyObject gap => exact ⟨_, _, rfl, by decide⟩
  | object first more names each => exact ⟨_, _, rfl, by decide⟩

theorem slotLead {s : Slot Json} (lead : Begins s.text) :
    ∃ c rest, s.written = c :: rest ∧ c.val < 0x80 := by
  obtain ⟨c, more, split, opens⟩ := lead
  obtain ⟨⟨before, blank⟩, value, text, after⟩ := s
  cases before with
  | nil => exact ⟨c, more ++ after.1, congrArg (· ++ after.1) split, opens.1⟩
  | cons b before =>
    have own := blank b List.mem_cons_self
    simp [isBlank] at own
    exact ⟨b, before ++ (text ++ after.1), rfl, by omega⟩

/-! Which characters a text is made of: such as every encoding writes, and no zeros, since the
encoding is guessed from where zeros stand. -/

def Writable (c : CodePoint) : Prop := c.val ≠ 0 ∧ c.isSurrogate = false

theorem asciiWritable {c : CodePoint} (bounds : 0 < c.val ∧ c.val < 0x80) : Writable c := by
  refine ⟨Nat.ne_of_gt bounds.1, ?_⟩
  simp [CodePoint.isSurrogate]
  omega

theorem cleanWritable {t : Text} (clean : Decimal.Clean t) : ∀ c ∈ t, Writable c :=
  fun c member => asciiWritable ⟨by have := (clean c member).1; omega, (clean c member).1.2⟩

theorem gapWritable (gap : Gap) : ∀ c ∈ gap.1, Writable c := by
  intro c member
  have blank := gap.2 c member
  simp [isBlank] at blank
  exact asciiWritable (by omega)

theorem hexWritable {n : Nat} {digits : Text} (unit : HexUnit n digits) :
    ∀ c ∈ digits, Writable c := by
  have all : ∀ k : Fin 16, (0 < (Nat.digitChar k).toNat ∧ (Nat.digitChar k).toNat < 0x80) ∧
      0 < (Nat.digitChar k).toUpper.toNat ∧ (Nat.digitChar k).toUpper.toNat < 0x80 := by decide
  have digit {c : CodePoint} {k : Nat} (hex : Hex c k) : Writable c := by
    obtain ⟨small, rfl | rfl⟩ := hex
    · exact asciiWritable (all ⟨k, small⟩).1
    · exact asciiWritable (all ⟨k, small⟩).2
  cases unit with
  | digits first second third fourth =>
    simp [digit first, digit second, digit third, digit fourth]

theorem escapesWritable {c : CodePoint} {w : Text} (escapes : Escapes c w) :
    ∀ d ∈ w, Writable d := by
  have letter : Writable (.ofChar 'u') := asciiWritable (by decide)
  have backslash : Writable (.ofChar '\\') := asciiWritable (by decide)
  cases escapes with
  | short known =>
    have all : ∀ p ∈ shortEscapes, 0 < p.1.toNat ∧ p.1.toNat < 0x80 := by decide
    simpa using asciiWritable (all _ known)
  | unit hex => exact List.forall_mem_cons.mpr ⟨letter, hexWritable hex⟩
  | pair wide first second =>
    simp only [List.cons_append, List.forall_mem_cons, List.forall_mem_append]
    exact ⟨letter, hexWritable first, backslash, letter, hexWritable second⟩

theorem quotesWritable {s t : Text} (quotes : Quotes s t) (scalar : Scalar s) :
    ∀ c ∈ t, Writable c := by
  induction quotes with
  | nil => exact nofun
  | @plain c s t quote backslash printable rest ih =>
    have own : Writable c := ⟨by omega, scalar c List.mem_cons_self⟩
    exact List.forall_mem_cons.mpr
      ⟨own, ih fun d member => scalar d (List.mem_cons_of_mem c member)⟩
  | @escaped c w s t escapes rest ih =>
    simp only [List.cons_append, List.forall_mem_cons, List.forall_mem_append]
    exact ⟨asciiWritable (by decide), escapesWritable escapes,
      ih fun d member => scalar d (List.mem_cons_of_mem c member)⟩

theorem enclosedWritable {opening closing : Char} {inner : Text}
    (opens : 0 < opening.toNat ∧ opening.toNat < 0x80)
    (closes : 0 < closing.toNat ∧ closing.toNat < 0x80) (inside : ∀ c ∈ inner, Writable c) :
    ∀ c ∈ CodePoint.ofChar opening :: (inner ++ [CodePoint.ofChar closing]), Writable c :=
  List.forall_mem_cons.mpr ⟨asciiWritable opens, List.forall_mem_append.mpr
    ⟨inside, List.forall_mem_singleton.mpr (asciiWritable closes)⟩⟩

theorem textWritable {s t : Text} (text : SpellsText s t) (scalar : Scalar s) :
    ∀ c ∈ t, Writable c := by
  obtain ⟨body, quotes, rfl⟩ := text
  exact enclosedWritable (by decide) (by decide) (quotesWritable quotes scalar)

theorem slotWritable {α : Type} {s : Slot α} (text : ∀ c ∈ s.text, Writable c) :
    ∀ c ∈ s.written, Writable c := by
  simp only [Slot.written, List.forall_mem_append]
  exact ⟨gapWritable s.before, text, gapWritable s.after⟩

theorem listedWritable {α : Type} {written : α → Text} {first : α} {more : List α}
    (each : ∀ s ∈ first :: more, ∀ c ∈ written s, Writable c) :
    ∀ c ∈ listed written first more, Writable c := by
  have comma : Writable (.ofChar ',') := asciiWritable (by decide)
  simp only [listed, List.forall_mem_append, List.mem_flatMap, List.mem_cons]
  refine ⟨each first List.mem_cons_self, ?_⟩
  rintro c ⟨s, member, rfl | among⟩
  · exact comma
  · exact each s (List.mem_cons_of_mem first member) c among

theorem memberWritable {m : Member} (name : ∀ c ∈ m.name.text, Writable c)
    (value : ∀ c ∈ m.value.text, Writable c) : ∀ c ∈ m.written, Writable c := by
  simp only [Member.written, List.forall_mem_append, List.forall_mem_cons]
  exact ⟨slotWritable name, asciiWritable (by decide), slotWritable value⟩

theorem Spells.writable {v : Json} {t : Text} (spells : Spells v t) {depth : Nat}
    (exact : Exact depth v) : ∀ c ∈ t, Writable c := by
  have ascii (ch : Char) (bounds : 0 < ch.toNat ∧ ch.toNat < 0x80) : Writable (.ofChar ch) :=
    asciiWritable bounds
  induction spells generalizing depth with
  | null => simp [Text.ofString, ascii]
  | bool b => cases b <;> simp [Text.ofString, ascii]
  | int negative n =>
    have digits := cleanWritable (Decimal.cleanDigits (Text.digitsInside n))
    simp only [List.forall_mem_append]
    refine ⟨?_, digits⟩
    cases negative <;> simp [Decimal.signText, ascii]
  | decimal negative coefficient exponent =>
    rw [Decimal.printedText]
    exact cleanWritable
      (Decimal.cleanPrinted negative (Decimal.Parts.ofFinitePrints coefficient exponent))
  | string text =>
    cases exact with
    | string scalar => exact textWritable text scalar
  | emptyArray gap =>
    exact enclosedWritable (by decide) (by decide) (gapWritable gap)
  | array first more each ih =>
    cases exact with
    | array items =>
      have listed := listedWritable fun s member =>
        slotWritable (ih s member (items _ (List.mem_map_of_mem member)))
      exact enclosedWritable (by decide) (by decide) listed
  | emptyObject gap =>
    exact enclosedWritable (by decide) (by decide) (gapWritable gap)
  | object first more names each ih =>
    cases exact with
    | object distinct scalars values =>
      have members : ∀ m ∈ first :: more, ∀ c ∈ m.written, Writable c := fun m member =>
        memberWritable (textWritable (names m member) (scalars _ (List.mem_map_of_mem member)))
          (ih m member (values _ (List.mem_map_of_mem member)))
      exact enclosedWritable (by decide) (by decide) (listedWritable members)

end QuorumRate.Json
