import ProvisionGate.Proofs.Json.Record
import ProvisionGate.Proofs.Request.Resume
import ProvisionGate.Wire.Request

/-!
# Requests that are written and read again

The JSON text of a request is read back as the request if its extras are written the way they are
read: with the members of every object in order, and integers for numbers.  The extras of a request
that takes up an attempt again are texts, integers and truth values, and one map of texts, so every
such request survives.
-/

namespace ProvisionGate

theorem TextMap.forall_mem_ofPairs {α : Type} {pairs : List (String × α)}
    {P : String × α → Prop} (all : ∀ pair ∈ pairs, P pair) :
    ∀ entry ∈ (ofPairs pairs).entries, P entry := by
  have inserted : ∀ (m : TextMap α), (∀ entry ∈ m.entries, P entry) →
      ∀ entry ∈ (m.insertAll pairs).entries, P entry := by
    induction pairs with
    | nil => exact fun m held => held
    | cons pair rest ih =>
      obtain ⟨first, others⟩ := List.forall_mem_cons.1 all
      intro m held
      refine ih others (m.insert pair.1 pair.2) fun entry member => ?_
      rcases mem_insertEntry member with rfl | older
      · exact first
      · exact held entry older
  refine inserted .empty ?_
  rintro entry ⟨⟩

namespace Json

variable {m : TextMap Json} {members : List (String × Json)}

theorem sortedMembers_eq (fixed : ∀ member ∈ members, member.2.sorted = member.2) :
    sortedMembers members = members := by
  induction members with
  | nil => rw [sortedMembers]
  | cons member rest ih =>
    obtain ⟨first, others⟩ := List.forall_mem_cons.1 fixed
    rw [sortedMembers, first, ih others]

/-- A map of values that are sorted is sorted. -/
theorem sorted_ofMap (fixed : ∀ entry ∈ m.entries, entry.2.sorted = entry.2) :
    (ofMap m).sorted = ofMap m := by
  rw [ofMap, sorted, sortedMembers_eq fixed, TextMap.ofPairs_entries, ofMap]

/-- A map is read back if all its values are. -/
theorem map?_ofMap {read? : Json → Option Json}
    (reads : ∀ entry ∈ m.entries, read? entry.2 = some entry.2) :
    map? read? (ofMap m) = some m := by
  have values : ∀ entries : List (String × Json),
      (∀ entry ∈ entries, read? entry.2 = some entry.2) →
        entries.mapM (memberPair? read?) = some entries := by
    intro entries
    induction entries with
    | nil => exact fun _ => rfl
    | cons entry rest ih =>
      intro reads
      obtain ⟨first, others⟩ := List.forall_mem_cons.1 reads
      simp [memberPair?, first, ih others]
  rw [ofMap, map?, values m.entries reads, Option.map_some, TextMap.ofPairs_entries]

end Json

theorem TagRecord.ofJson?_toJson (record : TagRecord) : ofJson? record.toJson = some record := by
  simp [ofJson?, toJson, Json.Record.ofJson?, Json.Record.required?, Json.text?, List.lookup_cons]

namespace Payload

/-- What the payload carries is written the way it is read. -/
def IsStable : Payload → Prop
  | discovery _ => True
  | extras found => ∀ entry ∈ found.entries,
      entry.2.sorted = entry.2 ∧ Json.IsExact (Json.nestingLimit - 3) entry.2

variable {p : Payload}

theorem exact_toJson (stable : p.IsStable) : Json.IsExact (Json.nestingLimit - 1) p.toJson := by
  cases p with
  | discovery records =>
    have record (record : TagRecord) : Json.IsExact (Json.nestingLimit - 3) record.toJson :=
      .object (by simp [Json.IsExact.text])
    have list : Json.IsExact (Json.nestingLimit - 3 + 1) (.array (records.map TagRecord.toJson)) :=
      .array (List.forall_mem_map.2 fun found _ => record found)
    exact .object (List.forall_mem_cons.2 ⟨.text _, List.forall_mem_cons.2 ⟨list, by simp⟩⟩)
  | extras found =>
    have map : Json.IsExact (Json.nestingLimit - 3 + 1) (.ofMap found) :=
      .object fun entry member => (stable entry member).2
    exact .object (List.forall_mem_cons.2 ⟨.text _, List.forall_mem_cons.2 ⟨map, by simp⟩⟩)

theorem ofJson?_toJson (stable : p.IsStable) : ofJson? p.toJson = some p := by
  cases p with
  | discovery records =>
    have items : (records.map TagRecord.toJson).mapM TagRecord.ofJson? = some records := by
      induction records with
      | nil => rfl
      | cons record rest ih =>
        simp [TagRecord.ofJson?_toJson, ih trivial]
    have read : Json.list? TagRecord.ofJson? (.array (records.map TagRecord.toJson)) =
        some records := items
    simp [ofJson?, toJson, tagged?, Json.Record.ofJson?, Json.Record.required?, read]
  | extras found =>
    have read : Json.map? (fun value => some value.sorted) (Json.ofMap found) = some found :=
      Json.map?_ofMap fun entry member => congrArg some (stable entry member).1
    simp [ofJson?, toJson, tagged?, Json.Record.ofJson?, Json.Record.required?, read]

end Payload

namespace Request

variable {r : Request}

/-- The request is written the way it is read. -/
structure IsStable (r : Request) : Prop where
  action : Action.ofIdentifier r.action.identifier = r.action
  payload : r.payload.IsStable

theorem exact_toJson (stable : r.IsStable) : Json.IsExact Json.nestingLimit r.toJson := by
  have optional {α : Type} (name : α → String) (value : Option α) :
      Json.IsExact (Json.nestingLimit - 1) (Json.ofOption (fun a => .text (name a)) value) := by
    cases value with
    | none => exact .null
    | some value => exact .text (name value)
  have payload := Payload.exact_toJson stable.payload
  have principal := optional id r.callingPrincipal
  have resumed := optional AttemptId.text r.resumedAttempt
  exact .object (List.forall_mem_cons.2 ⟨.text _, List.forall_mem_cons.2 ⟨payload,
    List.forall_mem_cons.2 ⟨principal, List.forall_mem_cons.2 ⟨resumed, by simp⟩⟩⟩⟩)

theorem ofJson?_toJson (stable : r.IsStable) : ofJson? r.toJson = some r := by
  obtain ⟨action, payload, principal, resumed⟩ := r
  have action := stable.action
  have payload := Payload.ofJson?_toJson stable.payload
  dsimp only at action payload
  cases principal <;> cases resumed <;>
    simp [ofJson?, toJson, fieldNames, Json.Record.ofJson?, Json.Record.required?,
      Json.Record.optional?, Json.Record.withDefault?, Json.optional?, Json.ofOption, Json.text?,
      List.lookup_cons, action, payload]

/-- A request that is stable is read back from its text in any layout. -/
theorem ofText?_layout (layout : Json.Layout) (stable : r.IsStable) :
    ofText? (String.ofList (layout.value 0 r.toJson)) = some r := by
  have read : Json.recordOfText? fieldNames (layout.value 0 r.toJson) = some r.toJson :=
    Json.recordOfText?_layout layout (by simp [fieldNames]) (exact_toJson stable)
  unfold ofText?
  rw [String.toList_ofList, read, Option.bind_eq_bind, Option.bind_some, ofJson?_toJson stable]

end Request

/-! ## Requests that take an attempt up again -/

namespace Json

/-- A value as parameters are written. -/
inductive IsWritten : Json → Prop
  | text (value : String) : IsWritten (.text value)
  | int {value : Int} (fits : FitsWord value) : IsWritten (.ofInt value)
  | bool (value : Bool) : IsWritten (.bool value)
  | texts (found : TextMap String) : IsWritten (.ofMap (found.mapValues .text))

variable {j : Json}

theorem IsWritten.sorted_eq (written : IsWritten j) : j.sorted = j := by
  cases written with
  | text value => simp [sorted]
  | int fits => simp [ofInt, sorted]
  | bool value => simp [sorted]
  | texts found =>
    apply sorted_ofMap
    intro entry member
    obtain ⟨⟨key, value⟩, -, rfl⟩ := List.mem_map.1 member
    simp [sorted]

theorem IsWritten.exact (written : IsWritten j) (room : Nat) : IsExact (room + 1) j := by
  cases written with
  | text value => exact .text value
  | int fits => exact .int fits
  | bool value => exact .bool value
  | texts found =>
    refine .object fun entry member => ?_
    obtain ⟨⟨key, value⟩, -, rfl⟩ := List.mem_map.1 member
    exact .text value

end Json

theorem fitsWord_toInt (value : Int64) : Json.FitsWord value.toInt := by
  have least := Int64.minValue_le_toInt value
  have most := Int64.toInt_le value
  have low : Int64.minValue.toInt = -(2 ^ 63) := rfl
  have high : Int64.maxValue.toInt = 2 ^ 63 - 1 := rfl
  exact ⟨by omega, by omega⟩

theorem fitsWord_toNat (value : UInt16) : Json.FitsWord (value.toNat : Int) := by
  have most := value.toNat_lt
  exact ⟨by omega, by omega⟩

namespace Params

theorem extrasFields_written (p : Params) :
    ∀ field ∈ p.extrasFields, ∀ j ∈ field.2, Json.IsWritten j := by
  have text (value : Option String) : ∀ j ∈ value.map Json.text, Json.IsWritten j := by
    intro j member
    obtain ⟨found, -, rfl⟩ := Option.map_eq_some_iff.1 member
    exact .text found
  have int {α : Type} (value : Option α) (toInt : α → Int)
      (fits : ∀ a, Json.FitsWord (toInt a)) :
      ∀ j ∈ (value.map toInt).map Json.ofInt, Json.IsWritten j := by
    intro j member
    rw [Option.map_map] at member
    obtain ⟨found, -, rfl⟩ := Option.map_eq_some_iff.1 member
    exact .int (fits found)
  have flag (value : Bool) : ∀ j ∈ some (Json.bool value), Json.IsWritten j := by
    rintro j ⟨⟩
    exact .bool value
  have extras : ∀ j ∈ if p.adminExtras.isEmpty then none
      else some (Json.ofMap (p.adminExtras.mapValues Json.text)), Json.IsWritten j := by
    intro j member
    split at member
    · cases member
    · obtain rfl := Option.some.inj member
      exact .texts p.adminExtras
  unfold extrasFields
  simp only [List.forall_mem_cons]
  exact ⟨text _, text _, text _, text _, text _, text _, text _, text _, text _, text _, text _,
    text _, int _ _ fitsWord_toNat, flag _, int _ _ fitsWord_toInt, flag _, flag _, flag _, extras,
    by simp⟩

theorem extrasEntries_written (p : Params) :
    ∀ entry ∈ p.extrasEntries, Json.IsWritten entry.2 := by
  intro entry member
  rw [p.extrasEntries_eq] at member
  obtain ⟨field, inside, present⟩ := List.mem_filterMap.1 member
  obtain ⟨value, held, rfl⟩ := Option.map_eq_some_iff.1 present
  exact p.extrasFields_written field inside value held

theorem resumeRequest_isStable (p : Params) (attempt : AttemptId) :
    (p.resumeRequest attempt).IsStable where
  action := rfl
  payload := TextMap.forall_mem_ofPairs fun entry member =>
    have written := p.extrasEntries_written entry member
    ⟨written.sorted_eq, written.exact _⟩

end Params

/-- The request of a ticket survives: its text, compact or indented, is read back as the same legacy
trigger with the same extras, without a sender, for the attempt of the ticket. -/
theorem Ticket.resumeRequest_survives (ticket : Ticket) :
    Request.ofText? ticket.resumeRequest.toJson.compact = some ticket.resumeRequest ∧
    Request.ofText? ticket.resumeRequest.toJson.indented = some ticket.resumeRequest ∧
    ticket.resumeRequest.action = .legacyProvision ∧
    ticket.resumeRequest.payload = .extras ticket.resumeParams.toExtras ∧
    ticket.resumeRequest.callingPrincipal = none ∧
    ticket.resumeRequest.resumedAttempt = some ticket.attempt := by
  have stable := ticket.resumeParams.resumeRequest_isStable ticket.attempt
  have compact := Request.ofText?_layout .compact stable
  have indented := Request.ofText?_layout .indented stable
  exact ⟨compact, indented, rfl, rfl, rfl, rfl⟩

end ProvisionGate
