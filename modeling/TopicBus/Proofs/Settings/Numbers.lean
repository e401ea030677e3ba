import Mathlib.Logic.Function.Basic
import TopicBus.Proofs.Decimal.Numerals
import TopicBus.Proofs.Settings.Differences
import TopicBus.Proofs.Settings.Faults
import TopicBus.Proofs.Settings.Readings
import TopicBus.Proofs.Text.Pieces

/-!
# Options that are numbers

Durations, sizes and counts are numbers of at most 64 bits, in either of two spellings. An
option that spells a number sets it, whatever the spelling; one that spells none is refused,
unless something that is looked at earlier is refused; and nothing else in the settings depends
on it.
-/

namespace TopicBus.Settings

/-! ## Spellings of numbers -/

/-- Whether a text is the digits of a number, with at most a plus sign in front of them and
blanks around them. -/
def IsNumeral (s : String) (n : Nat) : Prop :=
  ∃ before sign run after, s.toList = before ++ (sign ++ run) ++ after ∧
    (∀ c ∈ before, Text.isBlank c = true) ∧ (∀ c ∈ after, Text.isBlank c = true) ∧
      (sign = [] ∨ sign = ['+']) ∧ Decimal.Spells run n

/-- The numbers of 64 bits, each in its spellings. -/
inductive Denotes : Json → Nat → Prop
  | natural {n : Nat} (fits : n < UInt64.size) : Denotes (.number (.natural n)) n
  | text {s : String} {n : Nat} (numeral : IsNumeral s n) (fits : n < UInt64.size) :
      Denotes (.text s) n

theorem isBlank_of_isDigit {c : Char} (isDigit : Decimal.isDigit c = true) :
    Text.isBlank c = false := by
  have least : 48 ≤ c.toNat := by
    simp only [Decimal.isDigit, Bool.and_eq_true, decide_eq_true_eq] at isDigit
    exact isDigit.1
  have greatest : c.toNat ≤ 57 := by
    simp only [Decimal.isDigit, Bool.and_eq_true, decide_eq_true_eq] at isDigit
    exact isDigit.2
  simp only [Text.isBlank]
  grind

/-- A numeral has no blank in it. -/
theorem isBlank_of_mem_numeral {sign run : List Char} {n : Nat} (signed : sign = [] ∨ sign = ['+'])
    (spells : Decimal.Spells run n) : ∀ c ∈ sign ++ run, Text.isBlank c = false := by
  intro c member
  rcases List.mem_append.mp member with inSign | inRun
  · rcases signed with rfl | rfl
    · cases inSign
    · rw [List.mem_singleton.mp inSign]
      decide
  · exact isBlank_of_isDigit (spells.digits c inRun)

theorem isNumeral_iff {s : String} {n : Nat} :
    IsNumeral s n ↔ ∃ sign run, (sign = [] ∨ sign = ['+']) ∧
      Text.trimChars s.toList = sign ++ run ∧ Decimal.Spells run n := by
  constructor
  · rintro ⟨before, sign, run, after, shape, blank, blankAfter, signed, spells⟩
    have solid := isBlank_of_mem_numeral signed spells
    refine ⟨sign, run, signed, ?_, spells⟩
    rw [shape, Text.trimChars_append blank blankAfter]
    · simp [spells.nonempty]
    · exact fun c first => solid c (List.mem_of_mem_head? first)
    · exact fun c last => solid c (List.mem_of_mem_getLast? last)
  · rintro ⟨sign, run, signed, trimmed, spells⟩
    obtain ⟨before, after, shape, blank, blankAfter⟩ := Text.exists_trimChars s.toList
    rw [trimmed] at shape
    exact ⟨before, sign, run, after, shape, blank, blankAfter, signed, spells⟩

/-- A value that is no double stands for a number just if it spells it. -/
theorem numberOf?_eq_some_iff {value : Json} {n : Nat} (noDouble : ∀ x, value ≠ .number (.real x)) :
    numberOf? value = some n ↔ Denotes value n := by
  constructor
  · intro meant
    cases value with
    | number number =>
        cases number with
        | natural m =>
            rw [numberOf?, Option.ite_none_right_eq_some] at meant
            obtain ⟨fits, ⟨⟩⟩ := meant
            exact .natural fits
        | negative m => cases meant
        | real x => exact absurd rfl (noDouble x)
    | text s =>
        obtain ⟨fits, sign, run, signed, trimmed, spells⟩ := Decimal.readBelow_eq_some_iff.mp meant
        exact .text (isNumeral_iff.mpr ⟨sign, run, signed, trimmed, spells⟩) fits
    | null | bool b | list items | mapping entries => cases meant
  · rintro (fits | ⟨numeral, fits⟩)
    · rw [numberOf?, if_pos fits]
    · obtain ⟨sign, run, signed, trimmed, spells⟩ := isNumeral_iff.mp numeral
      exact Decimal.readBelow_eq_some_iff.mpr ⟨fits, sign, run, signed, trimmed, spells⟩

/-! ## Resolving with one option more -/

section

variable {α β γ : Type} {set : α → β → β} {reading : Except SettingsFault (Option α)}

/--
How a resolution comes out if one more option is read, compared with how it comes out without
it: an unset option makes no difference, what is read is set, and a fault is reported, unless
another one comes before it.
-/
def Reflects (set : α → β → β) (reading : Except SettingsFault (Option α))
    (outcome without : Except SettingsFault β) : Prop :=
  match reading with
  | .ok none => outcome = without
  | .ok (some found) => outcome = set found <$> without
  | .error fault =>
      outcome = .error fault ∨ ∃ cause, outcome = .error cause ∧ without = .error cause

namespace Reflects

theorem read (reading : Except SettingsFault (Option α)) :
    Reflects (fun found _ => some found) reading reading (.ok none) := by
  rcases reading with fault | _ | found
  · exact .inl rfl
  · rfl
  · rfl

/-- What is done first makes no difference. -/
theorem after (first : Except SettingsFault γ) {next nextWithout : γ → Except SettingsFault β}
    (rest : ∀ value, Reflects set reading (next value) (nextWithout value)) :
    Reflects set reading (first >>= next) (first >>= nextWithout) := by
  cases first with
  | error fault =>
      rcases reading with cause | _ | found
      · exact .inr ⟨fault, rfl, rfl⟩
      · rfl
      · rfl
  | ok value => exact rest value

/-- What is done next makes no difference, as long as it keeps to what is set. -/
theorem before {outcome without : Except SettingsFault β}
    (reflects : Reflects set reading outcome without) {next : β → Except SettingsFault γ}
    {lift : α → γ → γ} (sets : ∀ found value, next (set found value) = lift found <$> next value) :
    Reflects lift reading (outcome >>= next) (without >>= next) := by
  rcases reading with fault | _ | found
  · rcases reflects with rfl | ⟨cause, rfl, rfl⟩
    · exact .inl rfl
    · exact .inr ⟨cause, rfl, rfl⟩
  · obtain rfl : outcome = without := reflects
    rfl
  · obtain rfl : outcome = set found <$> without := reflects
    cases without with
    | error fault => rfl
    | ok value => exact sets found value

end Reflects

end

/-! ## Quantities of the roles -/

/-- What an option of a group is read as, if the group is set. -/
def numberIn? (options : Mapping) (group option : String) : Except SettingsFault (Option Nat) := do
  match ← group? options group with
  | none => return none
  | some entries => number? entries group option

/-- Of two groups that differ in one number only, which is unset in the other, all other options
are read alike. -/
theorem AgreeBut.readings {ι : Type} [DecidableEq ι] {name : ι → String} {i : ι} {group : String}
    {options others : Mapping} (agree : AgreeBut group (name i) options others)
    (unset : optionAt? others group (name i) = none) (injective : Function.Injective name) :
    ∃ entries otherEntries : Mapping,
      group? options group = .ok (some entries) ∧ group? others group = .ok (some otherEntries) ∧
        (∀ option, option ≠ name i → text? entries group option = text? otherEntries group option) ∧
        ∃ number : ι → Except SettingsFault (Option Nat),
          (fun j => number? entries group (name j)) =
            Function.update number i (numberIn? options group (name i)) ∧
          (fun j => number? otherEntries group (name j)) = Function.update number i (.ok none) := by
  obtain ⟨entries, otherEntries, found, foundToo, -, inGroup, alike⟩ := agree.groups
  refine ⟨entries, otherEntries, found, foundToo,
    fun option different => text?_congr (alike option different) group,
    fun j => number? otherEntries group (name j), ?_, ?_⟩
  · rw [Function.eq_update_iff]
    refine ⟨?_, fun j different => number?_congr (alike _ (injective.ne different)) group⟩
    rw [numberIn?, found]
    rfl
  · rw [Function.eq_update_iff]
    refine ⟨?_, fun j _ => rfl⟩
    rw [number?, ← inGroup, unset]

namespace Producer

/-- The settings of a producer that are numbers. -/
inductive Quantity
  | linger
  | batchSize
  | retries
  | bufferSize
  | flushTimeout
  deriving DecidableEq

namespace Quantity

def option : Quantity → String
  | .linger => "linger_ms"
  | .batchSize => "batch_size"
  | .retries => "retries"
  | .bufferSize => "buffer_size"
  | .flushTimeout => "flush_timeout_ms"

def set (quantity : Quantity) (n : Nat) (producer : Producer) : Producer :=
  match quantity with
  | .linger => { producer with linger := n }
  | .batchSize => { producer with batchSize := some n }
  | .retries => { producer with retries := n }
  | .bufferSize => { producer with bufferSize := n }
  | .flushTimeout => { producer with flushTimeout := n }

theorem option_injective : Function.Injective option := by
  intro first second same
  cases first <;> cases second <;> first | rfl | exact absurd same (by decide)

end Quantity

/-- A producer, from what is read of its options. -/
def ofReadings (number : Quantity → Except SettingsFault (Option Nat))
    (ack : Except SettingsFault (Option String)) : Except SettingsFault Producer := do
  let linger ← number .linger
  let batchSize ← number .batchSize
  let ack ← ack
  let retries ← number .retries
  let bufferSize ← number .bufferSize
  let flushTimeout ← number .flushTimeout
  return {
    linger := linger.getD default.linger
    batchSize := batchSize
    ack := ack
    retries := retries.getD default.retries
    bufferSize := bufferSize.getD default.bufferSize
    flushTimeout := flushTimeout.getD default.flushTimeout }

theorem resolve_of_group? {options entries : Mapping}
    (found : group? options "producer" = .ok (some entries)) :
    resolve options = ofReadings (fun quantity => number? entries "producer" quantity.option)
      (text? entries "producer" "ack") := by
  rw [resolve, found]
  rfl

theorem reflects_ofReadings (quantity : Quantity) (reading : Except SettingsFault (Option Nat))
    (number : Quantity → Except SettingsFault (Option Nat))
    (ack : Except SettingsFault (Option String)) :
    Reflects quantity.set reading (ofReadings (Function.update number quantity reading) ack)
      (ofReadings (Function.update number quantity (.ok none)) ack) := by
  cases quantity with
  | linger =>
      refine (Reflects.read reading).before fun n found => ?_
      simp only [map_bind, map_pure]
      rfl
  | batchSize =>
      refine .after _ fun linger => (Reflects.read reading).before fun n found => ?_
      simp only [map_bind, map_pure]
      rfl
  | retries =>
      refine .after _ fun linger => .after _ fun batchSize => .after _ fun ack =>
        (Reflects.read reading).before fun n found => ?_
      simp only [map_bind, map_pure]
      rfl
  | bufferSize =>
      refine .after _ fun linger => .after _ fun batchSize => .after _ fun ack =>
        .after _ fun retries => (Reflects.read reading).before fun n found => ?_
      simp only [map_bind, map_pure]
      rfl
  | flushTimeout =>
      refine .after _ fun linger => .after _ fun batchSize => .after _ fun ack =>
        .after _ fun retries => .after _ fun bufferSize =>
          (Reflects.read reading).before fun n found => ?_
      rw [map_pure]
      rfl

/-- A quantity is all that a producer has of its option. -/
theorem reflects_resolve {quantity : Quantity} {options others : Mapping}
    (agree : AgreeBut "producer" quantity.option options others)
    (unset : optionAt? others "producer" quantity.option = none) :
    Reflects quantity.set (numberIn? options "producer" quantity.option) (resolve options)
      (resolve others) := by
  obtain ⟨entries, otherEntries, found, foundToo, text, number, numbers, numbersToo⟩ :=
    agree.readings unset Quantity.option_injective
  have ack : "ack" ≠ quantity.option := by cases quantity <;> decide
  rw [resolve_of_group? found, resolve_of_group? foundToo, numbers, numbersToo, text "ack" ack]
  exact reflects_ofReadings quantity _ number _

end Producer

namespace Consumer

/-- The settings of a consumer that are numbers. -/
inductive Quantity
  | bufferSize
  | pollTimeout
  deriving DecidableEq

namespace Quantity

def option : Quantity → String
  | .bufferSize => "buffer_size"
  | .pollTimeout => "poll_timeout_ms"

def set (quantity : Quantity) (n : Nat) (consumer : Consumer) : Consumer :=
  match quantity with
  | .bufferSize => { consumer with bufferSize := n }
  | .pollTimeout => { consumer with pollTimeout := n }

theorem option_injective : Function.Injective option := by
  intro first second same
  cases first <;> cases second <;> first | rfl | exact absurd same (by decide)

end Quantity

/-- A consumer, from what is read of its options. -/
def ofReadings (number : Quantity → Except SettingsFault (Option Nat))
    (group policyWord : Except SettingsFault (Option String)) : Except SettingsFault Consumer := do
  let group ← group
  let policyWord ← policyWord
  let startPolicy ← policyWord.mapM StartPolicy.parse
  let bufferSize ← number .bufferSize
  let pollTimeout ← number .pollTimeout
  return {
    group := group
    startPolicy := startPolicy
    bufferSize := bufferSize.getD default.bufferSize
    pollTimeout := pollTimeout.getD default.pollTimeout }

theorem resolve_of_group? {options entries : Mapping}
    (found : group? options "consumer" = .ok (some entries)) :
    resolve options = ofReadings (fun quantity => number? entries "consumer" quantity.option)
      (text? entries "consumer" "group_id") (text? entries "consumer" "auto_offset_reset") := by
  rw [resolve, found]
  rfl

theorem reflects_ofReadings (quantity : Quantity) (reading : Except SettingsFault (Option Nat))
    (number : Quantity → Except SettingsFault (Option Nat))
    (group policyWord : Except SettingsFault (Option String)) :
    Reflects quantity.set reading
      (ofReadings (Function.update number quantity reading) group policyWord)
      (ofReadings (Function.update number quantity (.ok none)) group policyWord) := by
  refine .after _ fun group => .after _ fun policyWord => .after _ fun startPolicy => ?_
  cases quantity with
  | bufferSize =>
      refine (Reflects.read reading).before fun n found => ?_
      simp only [map_bind, map_pure]
      rfl
  | pollTimeout =>
      refine .after _ fun bufferSize => (Reflects.read reading).before fun n found => ?_
      rw [map_pure]
      rfl

/-- A quantity is all that a consumer has of its option. -/
theorem reflects_resolve {quantity : Quantity} {options others : Mapping}
    (agree : AgreeBut "consumer" quantity.option options others)
    (unset : optionAt? others "consumer" quantity.option = none) :
    Reflects quantity.set (numberIn? options "consumer" quantity.option) (resolve options)
      (resolve others) := by
  obtain ⟨entries, otherEntries, found, foundToo, text, number, numbers, numbersToo⟩ :=
    agree.readings unset Quantity.option_injective
  have group : "group_id" ≠ quantity.option := by cases quantity <;> decide
  have policy : "auto_offset_reset" ≠ quantity.option := by cases quantity <;> decide
  rw [resolve_of_group? found, resolve_of_group? foundToo, numbers, numbersToo, text _ group,
    text _ policy]
  exact reflects_ofReadings quantity _ number _ _

end Consumer

/-! ## Quantities of a connection -/

/-- The settings of a connection that are numbers. -/
inductive Quantity
  | producer (quantity : Producer.Quantity)
  | consumer (quantity : Consumer.Quantity)

namespace Quantity

def group : Quantity → String
  | .producer _ => "producer"
  | .consumer _ => "consumer"

def option : Quantity → String
  | .producer quantity => quantity.option
  | .consumer quantity => quantity.option

def set (quantity : Quantity) (n : Nat) (broker : Broker) : Broker :=
  match quantity with
  | .producer quantity => { broker with producer := quantity.set n broker.producer }
  | .consumer quantity => { broker with consumer := quantity.set n broker.consumer }

/-- What the option of a quantity is read as. -/
def read? (quantity : Quantity) (options : Mapping) : Except SettingsFault (Option Nat) :=
  numberIn? options quantity.group quantity.option

end Quantity

variable {options others : Mapping} {quantity : Quantity} {value : Json}

/-- How the settings of the role come out, if the option of a quantity is read. -/
def Quantity.ReflectsInRole (quantity : Quantity) (options others : Mapping) : Prop :=
  match quantity with
  | .producer within =>
      Reflects within.set (quantity.read? options) (Producer.resolve options)
        (Producer.resolve others)
  | .consumer within =>
      Reflects within.set (quantity.read? options) (Consumer.resolve options)
        (Consumer.resolve others)

theorem Quantity.reflectsInRole (agree : AgreeBut quantity.group quantity.option options others)
    (unset : optionAt? others quantity.group quantity.option = none) :
    quantity.ReflectsInRole options others := by
  cases quantity with
  | producer within => exact Producer.reflects_resolve agree unset
  | consumer within => exact Consumer.reflects_resolve agree unset

/-- A quantity is all that the settings have of its option. -/
theorem Broker.reflects_resolve (agree : AgreeBut quantity.group quantity.option options others)
    (unset : optionAt? others quantity.group quantity.option = none) :
    Reflects quantity.set (quantity.read? options) (resolve options) (resolve others) := by
  cases quantity with
  | producer quantity =>
      have agree : AgreeBut "producer" quantity.option options others := agree
      rw [resolve, resolve, agree.addresses_eq (by decide), agree.security_eq (by decide),
        agree.consumer_eq (by decide)]
      refine .after _ fun servers => .after _ fun security =>
        (Producer.reflects_resolve agree unset).before fun n producer => ?_
      simp only [map_bind, map_pure]
      rfl
  | consumer quantity =>
      have agree : AgreeBut "consumer" quantity.option options others := agree
      rw [resolve, resolve, agree.addresses_eq (by decide), agree.security_eq (by decide),
        agree.producer_eq (by decide)]
      refine .after _ fun servers => .after _ fun security => .after _ fun producer =>
        (Consumer.reflects_resolve agree unset).before fun n consumer => ?_
      rw [map_pure]
      rfl

/-! ## What a value is read as -/

/-- The value that stands at an option of a group, `null` included. -/
def entryAt? (options : Mapping) (group option : String) : Option Json :=
  match options.get? group with
  | some (.mapping entries) => Mapping.get? entries option
  | _ => none

/-- Where a value stands at an option, the group has it as an entry. -/
theorem exists_of_entryAt? {group option : String}
    (stands : entryAt? options group option = some value) :
    ∃ entries, numberIn? options group option = number? entries group option ∧
      Mapping.get? entries option = some value := by
  unfold entryAt? at stands
  split at stands
  · rename_i entries found
    have read : group? options group = .ok (some entries) := by simp only [group?, present?, found]
    refine ⟨entries, ?_, stands⟩
    rw [numberIn?, read]
    rfl
  · cases stands

theorem numberIn?_of_null {group option : String}
    (stands : entryAt? options group option = some .null) :
    numberIn? options group option = .ok none := by
  obtain ⟨entries, read, entry⟩ := exists_of_entryAt? stands
  rw [read]
  simp only [number?, present?, entry]

theorem numberIn?_of_set {group option : String}
    (stands : entryAt? options group option = some value)
    (set : value ≠ .null) :
    numberIn? options group option =
      (numberOf? value).elim (.error (.numberShape group option value.write)) fun n =>
        .ok (some n) := by
  obtain ⟨entries, read, entry⟩ := exists_of_entryAt? stands
  rw [read]
  cases value with
  | null => exact absurd rfl set
  | bool b | number n | text s | list items | mapping entries =>
      simp only [number?, present?, entry]
      cases numberOf? _ <;> rfl

theorem Denotes.ne_null {n : Nat} (denotes : Denotes value n) : value ≠ .null := by
  rintro rfl
  cases denotes

/-- Of a value that is no double, `null` is unset, a numeral is its number, and everything else
is a fault. -/
theorem Quantity.read?_iff (stands : entryAt? options quantity.group quantity.option = some value)
    (noDouble : ∀ x, value ≠ .number (.real x)) :
    (quantity.read? options = .ok none ↔ value = .null) ∧
      (∀ n, quantity.read? options = .ok (some n) ↔ Denotes value n) ∧
      ∀ fault, quantity.read? options = .error fault ↔
        fault = .numberShape quantity.group quantity.option value.write ∧ value ≠ .null ∧
          ∀ n, ¬ Denotes value n := by
  by_cases unset : value = .null
  · subst unset
    rw [read?, numberIn?_of_null stands]
    refine ⟨iff_of_true rfl rfl, fun n => iff_of_false nofun fun denotes => denotes.ne_null rfl,
      fun fault => iff_of_false nofun fun refused => refused.2.1 rfl⟩
  · rw [read?, numberIn?_of_set stands unset]
    simp only [← numberOf?_eq_some_iff noDouble, unset, iff_false]
    cases numberOf? value with
    | none => simp [unset, eq_comm]
    | some m => simp

/-- The numeral of a number, with blanks around it. -/
theorem denotes_digits {n : Nat} {before after : List Char} (fits : n < UInt64.size)
    (blank : ∀ c ∈ before, Text.isBlank c = true)
    (blankAfter : ∀ c ∈ after, Text.isBlank c = true) :
    Denotes (.text (String.ofList (before ++ Decimal.digits n ++ after))) n := by
  refine .text ⟨before, [], Decimal.digits n, after, ?_, blank, blankAfter, .inl rfl,
    Decimal.spells_digits n⟩ fits
  rw [String.toList_ofList, List.nil_append]

/-- Two spellings of one number make no difference. -/
theorem Broker.resolve_congr_of_denotes {twin : Mapping} {other : Json} {n : Nat}
    (agree : AgreeBut quantity.group quantity.option options others)
    (agreeToo : AgreeBut quantity.group quantity.option options twin)
    (unset : optionAt? others quantity.group quantity.option = none)
    (stands : entryAt? options quantity.group quantity.option = some value)
    (standsToo : entryAt? twin quantity.group quantity.option = some other)
    (denotes : Denotes value n) (denotesToo : Denotes other n) :
    resolve twin = resolve options := by
  have noDouble {value : Json} (denotes : Denotes value n) : ∀ x, value ≠ .number (.real x) := by
    rintro x rfl
    cases denotes
  have reflects := reflects_resolve agree unset
  have reflectsToo := reflects_resolve (agreeToo.symm.trans agree) unset
  rw [((quantity.read?_iff stands (noDouble denotes)).2.1 n).mpr denotes] at reflects
  rw [((quantity.read?_iff standsToo (noDouble denotesToo)).2.1 n).mpr denotesToo] at reflectsToo
  exact reflectsToo.trans reflects.symm

/--
A value that is no double counts as unset if it is `null`, it sets the number that it spells in
64 bits, and every other is refused under the name of its option, unless something is refused
before. It makes no difference how a number is spelt.
-/
theorem quantities_resolve (quantity : Quantity) {options others : Mapping} {value : Json}
    (agree : AgreeBut quantity.group quantity.option options others)
    (stands : entryAt? options quantity.group quantity.option = some value)
    (unset : optionAt? others quantity.group quantity.option = none)
    (noDouble : ∀ x, value ≠ .number (.real x)) :
    (quantity.read? options = .ok none ↔ value = .null) ∧
      (∀ n, quantity.read? options = .ok (some n) ↔ Denotes value n) ∧
      (∀ fault, quantity.read? options = .error fault ↔
        fault = .numberShape quantity.group quantity.option value.write ∧ value ≠ .null ∧
          ∀ n, ¬ Denotes value n) ∧
      (SettingsFault.numberShape quantity.group quantity.option value.write).message =
        quantity.group ++ ("." ++ (quantity.option ++
          (" must be a non-negative number, got " ++ value.write))) ∧
      quantity.ReflectsInRole options others ∧
      Reflects quantity.set (quantity.read? options) (Broker.resolve options)
        (Broker.resolve others) ∧
      ∀ (n : Nat) (twin : Mapping) (before after : List Char),
        value = .number (.natural n) → n < UInt64.size →
        (∀ c ∈ before, Text.isBlank c = true) → (∀ c ∈ after, Text.isBlank c = true) →
        AgreeBut quantity.group quantity.option options twin →
        entryAt? twin quantity.group quantity.option =
          some (.text (String.ofList (before ++ Decimal.digits n ++ after))) →
        Broker.resolve twin = Broker.resolve options := by
  obtain ⟨absent, number, fault⟩ := quantity.read?_iff stands noDouble
  refine ⟨absent, number, fault, SettingsFault.message_numberShape _ _ _,
    Quantity.reflectsInRole agree unset, Broker.reflects_resolve agree unset, ?_⟩
  rintro n twin before after rfl fits blank blankAfter agreeToo standsToo
  exact Broker.resolve_congr_of_denotes agree agreeToo unset stands standsToo (.natural fits)
    (denotes_digits fits blank blankAfter)

/-- A count of retries with a sign, zeros and blanks, and another as a number. -/
theorem quantities_resolve_of_retries :
    let retries : Quantity := .producer .retries
    let options (value : Json) : Mapping :=
      Mapping.insert "producer" (.mapping (Mapping.insert "retries" value [("ack", .text "all")]))
        [("brokers", .text "a")]
    let signed : Json := .text " +007 "
    let whole : Json := .number (.natural 12)
    let digits : Json := .text (String.ofList ([' '] ++ Decimal.digits 12 ++ ['\n']))
    (∀ value other, AgreeBut retries.group retries.option (options value) (options other)) ∧
      (∀ value, entryAt? (options value) retries.group retries.option = some value) ∧
      optionAt? (options .null) retries.group retries.option = none ∧
      (∀ x, signed ≠ .number (.real x)) ∧ (∀ x, whole ≠ .number (.real x)) ∧
      Denotes signed 7 ∧
      Broker.resolve (options signed) = retries.set 7 <$> Broker.resolve (options .null) ∧
      Broker.resolve (options digits) = Broker.resolve (options whole) := by
  intro retries options signed whole digits
  have agree (value other : Json) :
      AgreeBut retries.group retries.option (options value) (options other) := .of_insert ..
  have stands (value : Json) :
      entryAt? (options value) retries.group retries.option = some value := rfl
  have unset : optionAt? (options .null) retries.group retries.option = none := rfl
  have read : retries.read? (options signed) = .ok (some 7) := rfl
  have noDouble : ∀ x, Json.text " +007 " ≠ .number (.real x) := by
    rintro x ⟨⟩
  have noDoubleToo : ∀ x, Json.number (.natural 12) ≠ .number (.real x) := by
    rintro x ⟨⟩
  obtain ⟨-, denotes, -, -, -, resolves, -⟩ :=
    quantities_resolve retries (agree signed .null) (stands signed) unset noDouble
  obtain ⟨-, -, -, -, -, -, twin⟩ :=
    quantities_resolve retries (agree whole .null) (stands whole) unset noDoubleToo
  rw [read] at resolves
  have blank : ∀ c ∈ [' '], Text.isBlank c = true := List.forall_mem_singleton.mpr rfl
  have blankAfter : ∀ c ∈ ['\n'], Text.isBlank c = true := List.forall_mem_singleton.mpr rfl
  exact ⟨agree, stands, unset, noDouble, noDoubleToo, (denotes 7).mp read, resolves,
    twin 12 (options digits) [' '] ['\n'] rfl (by decide) blank blankAfter (agree whole digits)
      (stands digits)⟩

end TopicBus.Settings
