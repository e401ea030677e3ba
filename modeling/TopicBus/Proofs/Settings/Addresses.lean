import TopicBus.Proofs.Settings.Resolution
import TopicBus.Proofs.Text.Pieces

/-!
# Addresses in normal form

The addresses of a broker are resolved into one text with commas between them. An address that
comes from between two commas, and a number, is in normal form: it is not empty and has no blank
at either end. An address that stands in a list is trimmed as a whole, but not taken apart at
its own commas. So the text is in normal form, and is resolved into itself, just if every
address of the list that holds commas is in normal form already. Addresses without commas are
resolved alike, whether they are listed or joined.
-/

namespace TopicBus

/-! ## Numbers as texts -/

namespace Decimal

/-- The characters that numbers are written with. -/
def numeralCharacters : List Char :=
  ['0', '1', '2', '3', '4', '5', '6', '7', '8', '9', '.', 'e', '+', '-', 'n', 'u', 'l']

theorem digits_subset (n : Nat) : digits n ⊆ numeralCharacters := by
  have single : ∀ d < 10, digit d ∈ numeralCharacters := by decide
  induction n using Nat.strongRecOn with
  | ind n inductionHypothesis =>
      rw [digits]
      by_cases small : n < 10
      · rw [if_pos small, List.cons_subset]
        exact ⟨single n small, List.nil_subset _⟩
      · rw [if_neg small, List.append_subset, List.cons_subset]
        exact ⟨inductionHypothesis (n / 10) (by omega), single (n % 10) (by omega),
          List.nil_subset _⟩

theorem digits_ne_nil (n : Nat) : digits n ≠ [] := by
  rw [digits]
  split
  · exact List.cons_ne_nil _ _
  · exact List.append_ne_nil_of_right_ne_nil _ (List.cons_ne_nil _ _)

namespace Layout

private theorem replicate_zero_subset (count : Nat) :
    List.replicate count '0' ⊆ numeralCharacters := by
  intro c member
  rw [List.eq_of_mem_replicate member]
  decide

theorem plain_subset (significand : Nat) (exponent : Int) :
    plain significand exponent ⊆ numeralCharacters := by
  have digits := digits_subset significand
  have zeros := replicate_zero_subset
  unfold plain
  dsimp only
  split
  · rw [List.append_subset, List.append_subset]
    exact ⟨⟨digits, zeros _⟩, by decide⟩
  · split
    · rw [List.append_subset, List.cons_subset]
      exact ⟨List.Subset.trans (List.take_subset _ _) digits, by decide,
        List.Subset.trans (List.drop_subset _ _) digits⟩
    · rw [List.append_subset, List.cons_subset, List.cons_subset]
      exact ⟨⟨by decide, by decide, zeros _⟩, digits⟩

theorem exponential_subset (signed : Bool) (significand : Nat) (exponent : Int) :
    exponential signed significand exponent ⊆ numeralCharacters := by
  have digits := digits_subset significand
  unfold exponential
  dsimp only
  simp only [List.append_subset, List.cons_subset]
  refine ⟨⟨⟨List.Subset.trans (List.take_subset _ _) digits, ?_⟩, by decide, ?_⟩, digits_subset _⟩
  · split
    · exact List.nil_subset _
    · rw [List.cons_subset]
      exact ⟨by decide, List.Subset.trans (List.drop_subset _ _) digits⟩
  · split
    · decide
    · split
      · decide
      · decide

theorem size_subset (layout : Layout) (x : Magnitude) : layout.size x ⊆ numeralCharacters := by
  unfold size
  split
  · decide
  · dsimp only
    split
    · exact plain_subset _ _
    · exact exponential_subset _ _ _

theorem size_ne_nil (layout : Layout) (x : Magnitude) : layout.size x ≠ [] := by
  unfold size
  split
  · exact List.cons_ne_nil _ _
  · dsimp only
    split
    · unfold plain
      dsimp only
      split
      · simp
      · split
        · simp
        · simp
    · unfold exponential
      dsimp only
      simp

end Layout

end Decimal

namespace Number

open Decimal (numeralCharacters)

theorem toList_write_subset (n : Number) : n.write.toList ⊆ numeralCharacters := by
  cases n with
  | natural n =>
      rw [write, Decimal.natural, String.toList_ofList]
      exact Decimal.digits_subset n
  | negative n =>
      rw [write, String.toList_append, List.append_subset]
      refine ⟨by decide, ?_⟩
      rw [Decimal.natural, String.toList_ofList]
      exact Decimal.digits_subset n
  | real x =>
      have size := layout.size_subset
      rw [write]
      unfold Decimal.Layout.write
      split
      · decide
      · split
        · decide
        · decide
      · rw [String.toList_ofList]
        split
        · rw [List.cons_subset]
          exact ⟨by decide, size _⟩
        · exact size _

theorem write_ne_empty (n : Number) : n.write ≠ "" := by
  cases n with
  | natural n =>
      rw [write, Decimal.natural, ne_eq, ← String.toList_inj, String.toList_ofList]
      exact Decimal.digits_ne_nil n
  | negative n =>
      rw [write, ne_eq, ← String.toList_inj, String.toList_append]
      simp
  | real x =>
      rw [write]
      unfold Decimal.Layout.write
      split
      · decide
      · split
        · decide
        · decide
      · rw [ne_eq, ← String.toList_inj, String.toList_ofList]
        split
        · exact List.cons_ne_nil _ _
        · exact layout.size_ne_nil _

/-- No number is written with a blank or a comma. -/
theorem isTidy_write (n : Number) : Text.IsTidy n.write ∧ ',' ∉ n.write.toList := by
  have solid : (numeralCharacters.all fun c => !Text.isBlank c) = true := by decide
  refine ⟨Text.isTidy_of_forall n.write_ne_empty fun c member => ?_, fun comma => ?_⟩
  · simpa using List.all_eq_true.mp solid c (n.toList_write_subset member)
  · exact absurd (n.toList_write_subset comma) (by decide)

end Number

namespace Settings

/-! ## Normal form -/

/-- Addresses between commas, at least one, and each of them neither empty nor padded. -/
structure IsNormal (servers : String) : Prop where
  some : Text.split ',' servers ≠ []
  tidy : ∀ piece ∈ Text.split ',' servers, Text.IsTidy piece

theorem isNormal_of_isTidy {s : String} (tidy : Text.IsTidy s) (single : ',' ∉ s.toList) :
    IsNormal s := by
  refine ⟨Text.split_ne_nil ',' s, ?_⟩
  rw [Text.split_of_not_mem single]
  simpa using tidy

theorem isNormal_join_iff {entries : List String} (nonempty : entries ≠ []) :
    IsNormal (Text.join "," entries) ↔ ∀ entry ∈ entries, IsNormal entry := by
  have pieces : Text.split ',' (Text.join "," entries) = entries.flatMap (Text.split ',') :=
    Text.split_join ',' nonempty
  constructor
  · intro normal entry member
    refine ⟨Text.split_ne_nil ',' entry, fun piece inEntry => normal.tidy piece ?_⟩
    rw [pieces]
    exact List.mem_flatMap.mpr ⟨entry, member, inEntry⟩
  · intro normal
    refine ⟨Text.split_ne_nil ',' _, fun piece inJoined => ?_⟩
    rw [pieces] at inJoined
    obtain ⟨entry, member, inEntry⟩ := List.mem_flatMap.mp inJoined
    exact (normal entry member).tidy piece inEntry

/-! ## What is resolved -/

/-- The addresses that are not blank. -/
def kept (entries : List String) : List String :=
  entries.filter fun entry => !entry.isEmpty

theorem mem_kept_iff {entries : List String} {entry : String} :
    entry ∈ kept entries ↔ entry ∈ entries ∧ entry ≠ "" := by
  simp [kept]

variable {options : Mapping} {servers : String}

theorem addresses_eq_ok_iff :
    addresses options = .ok servers ↔
      ∃ value entries, present? options "brokers" = some value ∧
        serverEntries value = .ok entries ∧ kept entries ≠ [] ∧
        servers = Text.join "," (kept entries) := by
  unfold addresses
  cases present? options "brokers" with
  | none => simp
  | some value =>
      cases listed : serverEntries value with
      | error fault => simp [bind, Except.bind, listed]
      | ok entries =>
          by_cases empty : kept entries = []
          · have nothing : (entries.filter fun entry => !entry.isEmpty) = [] := empty
            simp [bind, Except.bind, listed, nothing, empty]
          · have something : (entries.filter fun entry => !entry.isEmpty).isEmpty = false := by
              simpa [kept] using empty
            simp only [bind, Except.bind, listed, something, Bool.false_eq_true, if_false,
              Except.ok.injEq, Option.some.injEq, exists_and_left, exists_eq_left', ne_eq, empty,
              not_false_eq_true, true_and]
            exact eq_comm

theorem mem_of_mapM_eq_ok {α β ε : Type} {f : α → Except ε β} {items : List α} {results : List β}
    (mapped : items.mapM f = .ok results) (result : β) :
    result ∈ results ↔ ∃ item ∈ items, f item = .ok result := by
  induction items generalizing results with
  | nil =>
      cases mapped
      simp
  | cons item rest inductionHypothesis =>
      rw [List.mapM_cons] at mapped
      cases first : f item with
      | error fault =>
          rw [first] at mapped
          cases mapped
      | ok value =>
          cases others : rest.mapM f with
          | error fault =>
              rw [first, others] at mapped
              cases mapped
          | ok values =>
              rw [first, others] at mapped
              cases mapped
              simp [first, inductionHypothesis others, eq_comm]

/-- The addresses between the commas of a text are all in normal form. -/
theorem isNormal_of_mem_kept_split {s entry : String}
    (member : entry ∈ kept ((Text.split ',' s).map Text.trim)) : IsNormal entry := by
  obtain ⟨trimmed, nonempty⟩ := mem_kept_iff.mp member
  obtain ⟨piece, inText, rfl⟩ := List.mem_map.mp trimmed
  apply isNormal_of_isTidy (Text.isTidy_trim nonempty)
  intro comma
  exact Text.not_mem_of_mem_split inText (Text.toList_trim_subset piece comma)

/-- The condition on a list of addresses: commas stand in its texts only between addresses in
normal form. -/
def CommasSeparate (options : Mapping) : Prop :=
  ∀ items, options.get? "brokers" = some (.list items) →
    ∀ s, .text s ∈ items → Text.trim s ≠ "" → IsNormal (Text.trim s)

theorem present?_eq_some {entries : Mapping} {key : String} {value : Json}
    (present : present? entries key = some value) : entries.get? key = some value := by
  unfold present? at present
  split at present
  · cases present
  · cases present
  · rename_i there
    cases present
    exact there

/-- What is resolved is in normal form just if no address of a list breaks it with its own
commas. -/
theorem isNormal_iff_of_addresses (resolved : addresses options = .ok servers) :
    IsNormal servers ↔ CommasSeparate options := by
  obtain ⟨value, entries, present, listed, nonempty, rfl⟩ := addresses_eq_ok_iff.mp resolved
  have there := present?_eq_some present
  rw [isNormal_join_iff nonempty, CommasSeparate]
  cases value with
  | text s =>
      cases listed
      constructor
      · intro _ items list
        rw [there] at list
        cases list
      · intro _ entry member
        exact isNormal_of_mem_kept_split member
  | list items =>
      have members := mem_of_mapM_eq_ok listed
      constructor
      · intro normal items list s member nonempty
        rw [there] at list
        cases list
        exact normal _ (mem_kept_iff.mpr ⟨(members _).mpr ⟨_, member, rfl⟩, nonempty⟩)
      · intro separate entry member
        obtain ⟨inEntries, nonempty⟩ := mem_kept_iff.mp member
        obtain ⟨item, inItems, made⟩ := (members entry).mp inEntries
        cases item with
        | text s =>
            cases made
            exact separate items there s inItems nonempty
        | number n =>
            cases made
            exact isNormal_of_isTidy n.isTidy_write.1 n.isTidy_write.2
        | null | bool b | list items | mapping entries => cases made
  | null | bool b | number n | mapping entries => cases listed

/-- A text is resolved into itself just if it is in normal form. -/
theorem addresses_insert_iff (options : Mapping) (servers : String) :
    addresses (Mapping.insert "brokers" (.text servers) options) = .ok servers ↔
      IsNormal servers := by
  have present := present?_insert options "brokers" (.text servers) nofun
  constructor
  · intro resolved
    rw [isNormal_iff_of_addresses resolved]
    intro items list
    rw [present?_eq_some present] at list
    cases list
  · intro normal
    refine addresses_eq_ok_iff.mpr ⟨_, _, present, rfl, ?_⟩
    have trimmed : (Text.split ',' servers).map Text.trim = Text.split ',' servers := by
      rw [List.map_congr_left fun piece member => (normal.tidy piece member).trim_eq, List.map_id']
    have all : kept ((Text.split ',' servers).map Text.trim) = Text.split ',' servers := by
      rw [trimmed, kept, List.filter_eq_self]
      intro piece member
      simpa using (normal.tidy piece member).nonempty
    rw [all]
    exact ⟨normal.some, (Text.join_split ',' servers).symm⟩

/-! ## Resolved again -/

/--
The addresses that are resolved are in normal form just if no address of a list breaks them with
its own commas, and that is also when they are resolved into themselves, given as one text.
-/
theorem servers_normal_iff {options : Mapping} {broker : Broker}
    (accepted : Broker.resolve options = .ok broker) :
    (IsNormal broker.servers ↔ CommasSeparate options) ∧
      ((∃ again,
          Broker.resolve (Mapping.insert "brokers" (.text broker.servers) options) = .ok again ∧
          again.servers = broker.servers) ↔
        CommasSeparate options) := by
  obtain ⟨listed, security, producer, consumer⟩ := Broker.resolve_eq_ok_iff.mp accepted
  have normal_iff := isNormal_iff_of_addresses listed
  refine ⟨normal_iff, ?_⟩
  rw [← normal_iff]
  constructor
  · rintro ⟨again, resolved, same⟩
    have reread := (Broker.resolve_eq_ok_iff.mp resolved).1
    rw [same] at reread
    exact (addresses_insert_iff options broker.servers).mp reread
  · intro normal
    refine ⟨broker, Broker.resolve_eq_ok_iff.mpr ⟨?_, ?_, ?_, ?_⟩, rfl⟩
    · exact (addresses_insert_iff options broker.servers).mpr normal
    · rw [Security.resolve_insert (by decide), security]
    · rw [Producer.resolve_insert (by decide), producer]
    · rw [Consumer.resolve_insert (by decide), consumer]

/-- A list of a padded address, a number and a blank text. -/
theorem servers_normal_of_list :
    let options : Mapping := [("brokers", .list [.text " a:1 ", .number (.natural 7), .text " "])]
    Broker.resolve options = .ok (Broker.ofServers "a:1,7") ∧ CommasSeparate options ∧
      IsNormal "a:1,7" ∧
      ∃ again, Broker.resolve [("brokers", .text "a:1,7")] = .ok again ∧
        again.servers = "a:1,7" := by
  intro options
  have accepted : Broker.resolve options = .ok (Broker.ofServers "a:1,7") := by
    have seven : (Number.natural 7).write = "7" := by
      rw [Number.write, Decimal.natural, Decimal.digits]
      rfl
    have listed : serverEntries (.list [.text " a:1 ", .number (.natural 7), .text " "]) =
        .ok ["a:1", "7", ""] := by
      simp only [serverEntries, List.mapM_cons, List.mapM_nil, serverEntry, seven]
      rfl
    have resolved : addresses options = .ok "a:1,7" :=
      addresses_eq_ok_iff.mpr ⟨_, _, rfl, listed, by decide, rfl⟩
    exact Broker.resolve_eq_ok_iff.mpr ⟨resolved, rfl, rfl, rfl⟩
  have separate : CommasSeparate options := by
    intro items list s member nonblank
    cases list
    rcases member with _ | ⟨_, _ | ⟨_, _ | ⟨_, ⟨⟩⟩⟩⟩
    · exact isNormal_of_isTidy (Text.isTidy_trim nonblank) (by decide)
    · exact absurd rfl nonblank
  have settled := servers_normal_iff accepted
  exact ⟨accepted, separate, settled.1.mpr separate, settled.2.mpr separate⟩

/-- An address of a list with a comma of its own, which the same address outside a list is split
at. -/
theorem servers_not_normal :
    Broker.resolve [("brokers", .list [.text "a, b"])] = .ok (Broker.ofServers "a, b") ∧
      ¬ IsNormal "a, b" ∧
      Broker.resolve [("brokers", .text "a, b")] = .ok (Broker.ofServers "a,b") := by
  refine ⟨rfl, fun normal => ?_, rfl⟩
  have padded := (normal.tidy " b" (by decide)).first ' ' (by decide)
  exact absurd padded (by decide)

/-! ## Listed or joined -/

theorem addresses_of_serverEntries {value : Json} {entries : List String}
    (present : present? options "brokers" = some value)
    (listed : serverEntries value = .ok entries) :
    addresses options =
      if (kept entries).isEmpty then .error .brokersEmpty
      else .ok (Text.join "," (kept entries)) := by
  rw [addresses, present]
  simp only [listed, bind, Except.bind]
  rfl

theorem serverEntries_texts (texts : List String) :
    serverEntries (.list (texts.map Json.text)) = .ok (texts.map Text.trim) := by
  have each : serverEntry ∘ Json.text = fun s => pure (Text.trim s) := rfl
  rw [serverEntries, List.mapM_map, each, List.mapM_pure]
  rfl

/-- The pieces of joined texts are the texts, except that of no texts there is one empty piece. -/
theorem kept_split_join {texts : List String} (single : ∀ s ∈ texts, ',' ∉ s.toList) :
    kept ((Text.split ',' (Text.join "," texts)).map Text.trim) = kept (texts.map Text.trim) := by
  by_cases empty : texts = []
  · subst empty
    rfl
  · have pieces : Text.split ',' (Text.join "," texts) = texts :=
      Text.split_join_of_forall empty single
    rw [pieces]

/--
Addresses without commas of their own are resolved alike, into settings or into a fault, whether
they stand in a list or in one text with commas between them.
-/
theorem resolve_list_eq_resolve_join {texts : List String} (single : ∀ s ∈ texts, ',' ∉ s.toList)
    (options : Mapping) :
    Broker.resolve (Mapping.insert "brokers" (.list (texts.map Json.text)) options) =
      Broker.resolve (Mapping.insert "brokers" (.text (Text.join "," texts)) options) := by
  have listed := addresses_of_serverEntries
    (present?_insert options "brokers" (.list (texts.map Json.text)) nofun)
    (serverEntries_texts texts)
  have joined := addresses_of_serverEntries
    (present?_insert options "brokers" (.text (Text.join "," texts)) nofun) rfl
  rw [kept_split_join single] at joined
  rw [Broker.resolve, Broker.resolve, listed, joined]
  simp only [ne_eq, String.reduceEq, not_false_eq_true, Security.resolve_insert,
    Producer.resolve_insert, Consumer.resolve_insert]

/-- A padded address, an empty one and a blank one beside a group that is none. -/
theorem resolve_list_eq_resolve_join_of_blank :
    (∀ s ∈ [" a:1", "", " "], ',' ∉ s.toList) ∧
      Broker.resolve
        [("brokers", .list [.text " a:1", .text "", .text " "]), ("producer", .bool true)] =
        Broker.resolve [("brokers", .text " a:1,, "), ("producer", .bool true)] := by
  have single : ∀ s ∈ [" a:1", "", " "], ',' ∉ s.toList := by decide
  exact ⟨single, resolve_list_eq_resolve_join single [("producer", .bool true)]⟩

end Settings

end TopicBus
