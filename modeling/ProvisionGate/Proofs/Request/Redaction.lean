import ProvisionGate.Proofs.Request.Fields
import ProvisionGate.Proofs.Request.Password

/-!
# A masked request is parsed like the request

Masking the secrets of a request changes nothing that its parser reads, but the password.  What is
rejected is rejected for the same fault, and what is accepted differs in the password alone: the mask
stands for it, also where a value under its key could not be read as one.
-/

namespace ProvisionGate

namespace Properties

theorem maskProperty_key (property : String × String) : (maskProperty property).1 = property.1 := by
  unfold maskProperty
  split <;> rfl

/-- A masked body has the properties of the body, with the password's masked. -/
theorem entries_parse_redact (body : String) :
    (parse (redact body)).entries = (parse body).entries.map maskProperty := by
  unfold parse
  rw [filterMap_lines_redact]
  exact TextMap.entries_ofPairs_map maskProperty_key _

-- Blanks, either separator and either line end; the second separator belongs to the value.
example : (parse (redact " provisioning.wifi_password : a=b\r\nk=v:w\r")).entries =
    [("k", "v:w"), ("provisioning.wifi_password", "<redacted>")] := by
  decide

theorem lookup_map_maskProperty (properties : List (String × String)) (key : String) :
    (properties.map maskProperty).lookup key =
      if key = Key.wifiPassword then (properties.lookup key).map fun _ => mask
      else properties.lookup key := by
  induction properties with
  | nil => split <;> rfl
  | cons property rest ih =>
    obtain ⟨name, value⟩ := property
    have masked : maskProperty (name, value) =
        (name, if name = Key.wifiPassword then mask else value) := by
      unfold maskProperty
      split <;> rfl
    rw [List.map_cons, masked, TextMap.lookup_cons_ite, TextMap.lookup_cons_ite, ih]
    by_cases same : key = name
    · subst same
      rw [if_pos rfl, if_pos rfl]
      split <;> rfl
    · rw [if_neg same, if_neg same]

theorem adminExtra?_maskProperty (property : String × String) :
    adminExtra? (maskProperty property) = adminExtra? property := by
  obtain ⟨name, value⟩ := property
  unfold maskProperty
  by_cases secret : name = Key.wifiPassword
  · subst secret
    have unnamed : adminExtraName? Key.wifiPassword = none := by decide
    simp only [if_pos, adminExtra?, unnamed, Option.map_none]
  · rw [if_neg secret]

end Properties

/-! ## Fields -/

/-- A source gives the fields of another one, and the mask where that has anything for a password. -/
structure FieldSource.Masks (masked source : FieldSource) : Prop where
  shown : source.SameShown masked
  password : masked.get? Key.wifiPassword =
    (source.get? Key.wifiPassword).map fun _ => .text Properties.mask

/-- The password that is read behind a mask, if there is one, by the password that it hides. -/
def behindMask (mask? password : Option String) : Option String :=
  (password.map fun _ => Properties.mask).or mask?

/-- The password is masked, or there is none. -/
def IsHidden (password : Option String) : Prop :=
  password = none ∨ password = some Properties.mask

theorem isHidden_map {α : Type} (value : Option α) : IsHidden (value.map fun _ => Properties.mask) := by
  cases value with
  | none => exact .inl rfl
  | some value => exact .inr rfl

namespace FieldSource

variable {source masked : FieldSource}

theorem masks_properties (body : String) :
    (properties (Properties.parse (Properties.redact body))).Masks
      (properties (Properties.parse body)) where
  shown := {
    values := by
      intro key shown
      simp only [get?, TextMap.get?, Properties.entries_parse_redact,
        Properties.lookup_map_maskProperty, if_neg shown]
    adminExtras := by
      intro strictness
      simp only [adminExtras, Properties.entries_parse_redact, List.filterMap_map,
        Function.comp_def, Properties.adminExtra?_maskProperty] }
  password := by
    simp only [get?, TextMap.get?, Properties.entries_parse_redact,
      Properties.lookup_map_maskProperty, if_pos, Option.map_map, Function.comp_def]

theorem masks_extras (found : TextMap Json) :
    (extras (maskEntry found Key.wifiPassword)).Masks (extras found) where
  shown := {
    values := by
      intro key shown
      simp only [get?, get?_maskEntry, if_neg shown]
    adminExtras := by
      intro strictness
      have different : Key.adminExtras ≠ Key.wifiPassword := by decide
      simp only [adminExtras, get?_maskEntry, if_neg different] }
  password := by
    simp only [get?, get?_maskEntry, if_pos]

/-- Where a password can be read, the mask is read in its place. -/
theorem Masks.text_password (masks : masked.Masks source) (strictness : Strictness)
    (readable : strictness = .permissive ∨ Entry.IsText (source.get? Key.wifiPassword)) :
    ∃ shown, IsHidden shown ∧
      behindMask shown <$> source.text strictness Key.wifiPassword =
        id <$> masked.text strictness Key.wifiPassword := by
  have behind : masked.text strictness Key.wifiPassword =
      .ok ((source.get? Key.wifiPassword).map fun _ => Properties.mask) := by
    have found : masked.get? Key.wifiPassword =
        ((source.get? Key.wifiPassword).map fun _ => Properties.mask).map Json.text := by
      rw [masks.password, Option.map_map]
      rfl
    rw [text_of_get? found]
    cases source.get? Key.wifiPassword <;> rfl
  have covered : behindMask ((source.get? Key.wifiPassword).map fun _ => Properties.mask)
      (Entry.textOf (source.get? Key.wifiPassword)) =
        (source.get? Key.wifiPassword).map fun _ => Properties.mask := by
    cases source.get? Key.wifiPassword with
    | none => rfl
    | some value =>
      unfold behindMask
      cases Entry.textOf (some value) <;> rfl
  refine ⟨_, isHidden_map (source.get? Key.wifiPassword), ?_⟩
  rw [behind]
  have reads := source.text_reads strictness Key.wifiPassword
  generalize source.text strictness Key.wifiPassword = read at reads
  cases reads with
  | taken | passedOver => exact congrArg Except.ok covered
  | refused malformed strict =>
    rcases readable with permissive | text
    · rw [strict] at permissive
      cases permissive
    · exact absurd text malformed

/-- The parameters of a masked source are those of the source behind the mask. -/
theorem Masks.fullParams (masks : masked.Masks source) (strictness : Strictness)
    (readable : strictness = .permissive ∨ Entry.IsText (source.get? Key.wifiPassword)) :
    ∃ shown, IsHidden shown ∧ masked.fullParams strictness =
      Params.mapPassword (behindMask shown) <$> source.fullParams strictness := by
  obtain ⟨shown, hidden, passwords⟩ := masks.text_password strictness readable
  refine ⟨shown, hidden, ?_⟩
  rw [masks.shown.fullParams passwords]
  exact (id_map _).symm

/-- A public trigger reads no password. -/
theorem publicParams_mapPassword (source : FieldSource) :
    Params.mapPassword (behindMask none) <$> source.publicParams = source.publicParams := by
  unfold publicParams
  simp only [map_bind, map_pure]
  rfl

end FieldSource

/-! ## Requests -/

theorem find?_redacted (records : List TagRecord) :
    ((records.map TagRecord.redacted).find? fun record => record.mimeType == provisioningMimeType) =
      (records.find? fun record => record.mimeType == provisioningMimeType).map
        TagRecord.redacted := by
  rw [List.find?_map]
  rfl

namespace Payload

variable (payload : Payload)

theorem discoveredParams_redacted :
    ∃ shown, IsHidden shown ∧ payload.redacted.discoveredParams =
      Params.mapPassword (behindMask shown) <$> payload.discoveredParams := by
  cases payload with
  | extras found => exact ⟨none, .inl rfl, rfl⟩
  | discovery records =>
    unfold redacted discoveredParams
    simp only [find?_redacted]
    cases records.find? fun record => record.mimeType == provisioningMimeType with
    | none => exact ⟨none, .inl rfl, rfl⟩
    | some record =>
      have text : Entry.IsText ((FieldSource.properties (Properties.parse record.body)).get?
          Key.wifiPassword) := by
        show Entry.IsText (((Properties.parse record.body).get? Key.wifiPassword).map Json.text)
        cases (Properties.parse record.body).get? Key.wifiPassword <;> trivial
      obtain ⟨shown, hidden, params⟩ :=
        (FieldSource.masks_properties record.body).fullParams .strict (.inr text)
      refine ⟨shown, hidden, ?_⟩
      simp only [Option.map_some, TagRecord.redacted, params, map_bind, map_pure, bind_map_left]
      rfl

theorem legacyParams_redacted :
    ∃ shown, IsHidden shown ∧ payload.redacted.legacyParams =
      Params.mapPassword (behindMask shown) <$> payload.legacyParams := by
  cases payload with
  | discovery records => exact ⟨none, .inl rfl, rfl⟩
  | extras found =>
    have masks := FieldSource.masks_extras found
    obtain ⟨shown, hidden, params⟩ := masks.fullParams .permissive (.inl rfl)
    refine ⟨shown, hidden, ?_⟩
    rw [redacted_extras, legacyParams_extras, legacyParams_extras, params,
      masks.shown.flag_eq Key.startedByDiscovery (by decide)]
    simp only [map_bind, map_pure, bind_map_left]
    rfl

theorem publicParams_redacted (caller : Option String) :
    payload.redacted.publicParams caller = payload.publicParams caller := by
  cases payload with
  | discovery records => rfl
  | extras found =>
    rw [redacted_extras, publicParams_extras, publicParams_extras,
      (FieldSource.masks_extras found).shown.publicParams_eq]

theorem publicParams_mapPassword (caller : Option String) :
    Params.mapPassword (behindMask none) <$> payload.publicParams caller =
      payload.publicParams caller := by
  cases payload with
  | discovery records => rfl
  | extras found =>
    have params := (FieldSource.extras found).publicParams_mapPassword
    rw [publicParams_extras]
    conv_rhs => rw [← params]
    simp only [map_bind, map_pure, bind_map_left]
    rfl

end Payload

/-- What comes of a request and of the same one masked: one fault, or parameters that differ in the
password alone, which is masked whenever there is one. -/
inductive MaskedOutcome : Except RequestFault Params → Except RequestFault Params → Prop
  | rejected (fault : RequestFault) : MaskedOutcome (.error fault) (.error fault)
  | accepted (p : Params) {shown : Option String} (hidden : IsHidden shown)
      (covers : p.wifi.password.isSome = true → shown = some Properties.mask) :
      MaskedOutcome (.ok p) (.ok { p with wifi := { p.wifi with password := shown } })

theorem MaskedOutcome.of_behindMask {shown : Option String} (hidden : IsHidden shown)
    (outcome : Except RequestFault Params) :
    MaskedOutcome outcome (Params.mapPassword (behindMask shown) <$> outcome) := by
  cases outcome with
  | error fault => exact .rejected fault
  | ok p =>
    refine .accepted p ?_ ?_
    · cases p.wifi.password with
      | none => exact hidden
      | some password => exact .inr rfl
    · intro given
      obtain ⟨password, same⟩ := Option.isSome_iff_exists.1 given
      rw [same]
      rfl

namespace Request

theorem actionParams_redacted (r : Request) :
    ∃ shown, IsHidden shown ∧ r.redacted.actionParams =
      Params.mapPassword (behindMask shown) <$> r.actionParams := by
  unfold actionParams redacted
  cases r.action with
  | ndefDiscovered => exact r.payload.discoveredParams_redacted
  | legacyProvision => exact r.payload.legacyParams_redacted
  | provision =>
    refine ⟨none, .inl rfl, ?_⟩
    rw [r.payload.publicParams_mapPassword]
    exact r.payload.publicParams_redacted r.callingPrincipal
  | unknown identifier => exact ⟨none, .inl rfl, rfl⟩

/-- A masked request is rejected for the fault of the request or parsed to its parameters but for
the password, and a masked body has the properties of the body but for the password's. -/
theorem parse_redacted :
    (∀ r : Request, MaskedOutcome r.parse r.redacted.parse) ∧
      ∀ body, (Properties.parse (Properties.redact body)).entries =
        (Properties.parse body).entries.map Properties.maskProperty := by
  refine ⟨fun r => ?_, Properties.entries_parse_redact⟩
  obtain ⟨shown, hidden, params⟩ := r.actionParams_redacted
  have parsed : r.redacted.parse = Params.mapPassword (behindMask shown) <$> r.parse := by
    unfold parse
    rw [params]
    cases r.actionParams with
    | error fault => rfl
    | ok p =>
      show (if p.admin?.isNone then _ else _) = _ <$> (if p.admin?.isNone then _ else _)
      cases p.admin? <;> rfl
  rw [parsed]
  exact .of_behindMask hidden r.parse

end Request

end ProvisionGate
