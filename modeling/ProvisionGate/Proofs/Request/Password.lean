import Mathlib.Data.List.Forall2
import ProvisionGate.Proofs.Request.Properties
import ProvisionGate.Proofs.Request.Resume
import ProvisionGate.Request.Redaction

/-!
# Passwords of requests

Two requests that differ in nothing but the password of the wireless network are rejected for the
same fault or parsed to parameters that differ in nothing but it.  They look the same when their
secrets are masked, and so do the requests that take their attempts up again.
-/

namespace ProvisionGate

/-- The network with its password masked if it has one. -/
def Wifi.masked (w : Wifi) : Wifi :=
  { w with password := w.password.map fun _ => Properties.mask }

/-- The parameters with the password masked if there is one. -/
def Params.masked (p : Params) : Params :=
  { p with wifi := p.wifi.masked }

/-- The network with a change to its password. -/
def Wifi.mapPassword (change : Option String → Option String) (w : Wifi) : Wifi :=
  { w with password := change w.password }

/-- The parameters with a change to the password. -/
def Params.mapPassword (change : Option String → Option String) (p : Params) : Params :=
  { p with wifi := p.wifi.mapPassword change }

theorem Params.admin?_masked (p : Params) : p.masked.admin? = p.admin? := rfl

theorem Params.masked_masked (p : Params) : p.masked.masked = p.masked := by
  simp only [masked, Wifi.masked, Option.map_map, Function.comp_def]

/-- Two values under a key are the same, or they are passwords as wanted. -/
def AlikeUnder {α : Type} (Wanted : α → Prop) (key : String) (value other : α) : Prop :=
  value = other ∨ key = Key.wifiPassword ∧ Wanted value ∧ Wanted other

/-- Two maps have the same values under the same keys, but for the password. -/
def TextMap.Alike {α : Type} (Wanted : α → Prop) (m other : TextMap α) : Prop :=
  ∀ key, Option.Rel (AlikeUnder Wanted key) (m.get? key) (other.get? key)

/-- A text with something in it. -/
def Json.IsFullText : Json → Prop
  | .text value => value ≠ ""
  | _ => False

namespace Properties

/-- Two lines are the same, or they begin with the same key, of the password, and each gives a
value that is not blank. -/
def LinesAlike (line other : List Char) : Prop :=
  line = other ∨ ∃ key value different,
    Text.splitAtFirst isSeparator line = some (key, value) ∧
    Text.splitAtFirst isSeparator other = some (key, different) ∧
    String.ofList (Text.trim key) = Key.wifiPassword ∧
    Text.trim value ≠ [] ∧ Text.trim different ≠ []

end Properties

/-- Two records are of one type and their lines are alike, one by one. -/
structure TagRecord.Alike (record other : TagRecord) : Prop where
  mimeType : record.mimeType = other.mimeType
  lines : List.Forall₂ Properties.LinesAlike (Text.lines record.body.toList)
    (Text.lines other.body.toList)

/-- Two payloads are of one form and differ in the password at most. -/
inductive Payload.Alike : Payload → Payload → Prop
  | discovery {records others : List TagRecord} (alike : List.Forall₂ TagRecord.Alike records others) :
      Alike (.discovery records) (.discovery others)
  | extras {found other : TextMap Json} (alike : found.Alike Json.IsFullText other) :
      Alike (.extras found) (.extras other)

/-- Two requests differ in the password at most, and have one both or neither. -/
structure Request.Alike (r other : Request) : Prop where
  action : r.action = other.action
  payload : r.payload.Alike other.payload
  callingPrincipal : r.callingPrincipal = other.callingPrincipal
  resumedAttempt : r.resumedAttempt = other.resumedAttempt

/-! ## Maps that differ in the password -/

section maps

variable {α : Type} {Wanted : α → Prop}

/-- Two entries have one key, and values that are alike under it. -/
def EntriesAlike (Wanted : α → Prop) (entry other : String × α) : Prop :=
  entry.1 = other.1 ∧ AlikeUnder Wanted entry.1 entry.2 other.2

theorem AlikeUnder.refl (key : String) (value : α) : AlikeUnder Wanted key value value :=
  .inl rfl

theorem entriesAlike_refl (entry : String × α) : EntriesAlike Wanted entry entry :=
  ⟨rfl, .refl _ _⟩

theorem forall₂_entriesAlike_refl (entries : List (String × α)) :
    List.Forall₂ (EntriesAlike Wanted) entries entries :=
  List.forall₂_same.2 fun entry _ => entriesAlike_refl entry

theorem insertEntry_alike {key : String} {value different : α} {entries others : List (String × α)}
    (alike : AlikeUnder Wanted key value different)
    (rest : List.Forall₂ (EntriesAlike Wanted) entries others) :
    List.Forall₂ (EntriesAlike Wanted) (insertEntry key value entries)
      (insertEntry key different others) := by
  induction rest with
  | nil => exact .cons ⟨rfl, alike⟩ .nil
  | @cons entry other entries others head tail ih =>
    simp only [insertEntry, ← head.1]
    split
    · exact .cons ⟨rfl, alike⟩ (.cons head tail)
    · split
      · exact .cons ⟨rfl, alike⟩ tail
      · exact .cons head ih

theorem TextMap.entries_ofPairs_alike {pairs others : List (String × α)}
    (alike : List.Forall₂ (EntriesAlike Wanted) pairs others) :
    List.Forall₂ (EntriesAlike Wanted) (ofPairs pairs).entries (ofPairs others).entries := by
  have inserted {m other : TextMap α}
      (begun : List.Forall₂ (EntriesAlike Wanted) m.entries other.entries) :
      List.Forall₂ (EntriesAlike Wanted) (m.insertAll pairs).entries
        (other.insertAll others).entries := by
    induction alike generalizing m other with
    | nil => exact begun
    | @cons pair different pairs others head tail ih =>
      obtain ⟨key, value⟩ := pair
      obtain ⟨same, other⟩ := different
      obtain ⟨rfl, values⟩ : key = same ∧ AlikeUnder Wanted key value other := head
      exact ih (insertEntry_alike values begun)
  exact inserted .nil

theorem lookup_alike {entries others : List (String × α)}
    (alike : List.Forall₂ (EntriesAlike Wanted) entries others) (key : String) :
    Option.Rel (AlikeUnder Wanted key) (entries.lookup key) (others.lookup key) := by
  induction alike with
  | nil => exact .none
  | @cons entry different entries others head tail ih =>
    obtain ⟨first, value⟩ := entry
    obtain ⟨second, other⟩ := different
    obtain ⟨rfl, values⟩ : first = second ∧ AlikeUnder Wanted first value other := head
    rw [TextMap.lookup_cons_ite, TextMap.lookup_cons_ite]
    split
    · subst_vars
      exact .some values
    · exact ih

theorem TextMap.alike_ofPairs {pairs others : List (String × α)}
    (alike : List.Forall₂ (EntriesAlike Wanted) pairs others) :
    (ofPairs pairs).Alike Wanted (ofPairs others) :=
  lookup_alike (entries_ofPairs_alike alike)

theorem TextMap.Alike.get?_eq {m other : TextMap α} (alike : m.Alike Wanted other) {key : String}
    (shown : key ≠ Key.wifiPassword) : m.get? key = other.get? key := by
  have values := alike key
  generalize m.get? key = left at values
  generalize other.get? key = right at values
  cases values with
  | none => rfl
  | some values =>
    rcases values with rfl | ⟨secret, -⟩
    · rfl
    · exact absurd secret shown

theorem get?_maskEntry (found : TextMap Json) (secret key : String) :
    (maskEntry found secret).get? key =
      if key = secret then (found.get? key).map fun _ => .text Properties.mask
      else found.get? key := by
  unfold maskEntry TextMap.contains
  cases held : found.get? secret with
  | none =>
    rw [Option.isSome_none, if_neg Bool.false_ne_true]
    split
    · subst_vars
      rw [held]
      rfl
    · rfl
  | some value =>
    rw [Option.isSome_some, if_pos rfl, TextMap.get?_insert]
    split
    · subst_vars
      rw [held]
      rfl
    · rfl

/-- Maps that differ in the password are the same once it is masked. -/
theorem maskEntry_alike {Wanted : Json → Prop} {found other : TextMap Json}
    (alike : found.Alike Wanted other) :
    maskEntry found Key.wifiPassword = maskEntry other Key.wifiPassword := by
  apply TextMap.ext_get?
  intro key
  rw [get?_maskEntry, get?_maskEntry]
  split
  · have values := alike key
    generalize found.get? key = left at values
    generalize other.get? key = right at values
    cases values <;> rfl
  · rename_i shown
    exact alike.get?_eq shown

end maps

/-- Lists that are related one by one are mapped alike by maps that take related items to one. -/
theorem map_eq_of_forall₂ {α β γ : Type} {R : α → β → Prop} {f : α → γ} {g : β → γ}
    {items : List α} {others : List β} (same : ∀ a b, R a b → f a = g b)
    (related : List.Forall₂ R items others) : items.map f = others.map g := by
  induction related with
  | nil => rfl
  | cons head tail ih => rw [List.map_cons, List.map_cons, same _ _ head, ih]

/-! ## Lines -/

namespace Properties

theorem property?_alike {line other : List Char} (alike : LinesAlike line other) :
    Option.Rel (EntriesAlike (· ≠ "")) (property? line) (property? other) := by
  rcases alike with rfl | ⟨key, value, different, split, otherSplit, secret, full, otherFull⟩
  · cases property? line with
    | none => exact .none
    | some entry => exact .some (entriesAlike_refl entry)
  · have filled {given : List Char} (visible : Text.trim given ≠ []) :
        String.ofList (Text.trim given) ≠ "" := by
      simpa using visible
    rw [property?_of_password split secret, property?_of_password otherSplit secret]
    exact .some ⟨rfl, .inr ⟨rfl, filled full, filled otherFull⟩⟩

theorem redactLine_alike {line other : List Char} (alike : LinesAlike line other) :
    redactLine line = redactLine other := by
  rcases alike with rfl | ⟨key, value, different, split, otherSplit, secret, -, -⟩
  · rfl
  · have hidden : String.ofList (Text.trim key) ∈ Key.secret := by
      rw [secret]
      exact List.mem_singleton_self _
    simp only [redactLine, split, otherSplit, if_pos hidden]

end Properties

namespace TagRecord

variable {record other : TagRecord}

theorem Alike.parse (alike : record.Alike other) :
    List.Forall₂ (EntriesAlike (· ≠ "")) (Properties.parse record.body).entries
      (Properties.parse other.body).entries := by
  refine TextMap.entries_ofPairs_alike (List.rel_filterMap ?_ alike.lines)
  intro line different lines
  exact Properties.property?_alike lines

theorem Alike.redacted (alike : record.Alike other) : record.redacted = other.redacted := by
  have lines : (Text.lines record.body.toList).map Properties.redactLine =
      (Text.lines other.body.toList).map Properties.redactLine :=
    map_eq_of_forall₂ (fun _ _ => Properties.redactLine_alike) alike.lines
  simp only [TagRecord.redacted, Properties.redact, lines, alike.mimeType]

end TagRecord

/-! ## Fields -/

/-- What is read on from results that are seen alike is the same if it depends on no more than what
is seen. -/
theorem bind_eq_of_map_eq {ε α β γ : Type} {f g : α → γ} {x y : Except ε α}
    {rest other : α → Except ε β} (seen : f <$> x = g <$> y)
    (later : ∀ a b, f a = g b → rest a = other b) : x >>= rest = y >>= other := by
  cases x with
  | error fault =>
    cases y with
    | error same =>
      obtain rfl := Except.error.inj seen
      rfl
    | ok b => cases seen
  | ok a =>
    cases y with
    | error fault => cases seen
    | ok b => exact later a b (Except.ok.inj seen)

/-- Two sources give the same fields, but for the password. -/
structure FieldSource.Alike (source other : FieldSource) : Prop where
  values : ∀ key, Option.Rel (AlikeUnder Json.IsFullText key) (source.get? key) (other.get? key)
  adminExtras : ∀ strictness, source.adminExtras strictness = other.adminExtras strictness

/-- Two sources give the same fields, but for what they say about the password. -/
structure FieldSource.SameShown (source other : FieldSource) : Prop where
  values : ∀ key, key ≠ Key.wifiPassword → source.get? key = other.get? key
  adminExtras : ∀ strictness, source.adminExtras strictness = other.adminExtras strictness

theorem adminExtra?_alike {property other : String × String}
    (alike : EntriesAlike (· ≠ "") property other) : adminExtra? property = adminExtra? other := by
  obtain ⟨key, value⟩ := property
  obtain ⟨same, different⟩ := other
  obtain ⟨rfl, values⟩ : key = same ∧ AlikeUnder (· ≠ "") key value different := alike
  rcases values with rfl | ⟨rfl, -⟩
  · rfl
  · have unnamed : adminExtraName? Key.wifiPassword = none := by decide
    simp only [adminExtra?, unnamed, Option.map_none]

theorem filterMap_adminExtra?_alike {properties others : List (String × String)}
    (alike : List.Forall₂ (EntriesAlike (· ≠ "")) properties others) :
    properties.filterMap adminExtra? = others.filterMap adminExtra? := by
  induction alike with
  | nil => rfl
  | cons head tail ih => rw [List.filterMap_cons, List.filterMap_cons, adminExtra?_alike head, ih]

namespace FieldSource

variable {source other : FieldSource} {strictness : Strictness}

theorem alike_properties {found others : TextMap String}
    (alike : List.Forall₂ (EntriesAlike (· ≠ "")) found.entries others.entries) :
    (properties found).Alike (properties others) where
  values key := by
    have values := lookup_alike alike key
    show Option.Rel _ ((found.entries.lookup key).map Json.text)
      ((others.entries.lookup key).map Json.text)
    generalize found.entries.lookup key = left at values
    generalize others.entries.lookup key = right at values
    cases values with
    | none => exact .none
    | some values =>
      rcases values with rfl | ⟨secret, full, otherFull⟩
      · exact .some (.refl _ _)
      · exact .some (.inr ⟨secret, full, otherFull⟩)
  adminExtras strictness := by
    rw [FieldSource.adminExtras, FieldSource.adminExtras, filterMap_adminExtra?_alike alike]

theorem alike_extras {found others : TextMap Json} (alike : found.Alike Json.IsFullText others) :
    (extras found).Alike (extras others) where
  values := alike
  adminExtras strictness := by
    have held : found.get? Key.adminExtras = others.get? Key.adminExtras :=
      alike.get?_eq (by decide)
    simp only [FieldSource.adminExtras, held]

/-- Sources that are alike give the same fields but for the password. -/
theorem Alike.sameShown (alike : source.Alike other) : source.SameShown other where
  values key shown := by
    have values := alike.values key
    generalize source.get? key = left at values
    generalize other.get? key = right at values
    cases values with
    | none => rfl
    | some values =>
      rcases values with rfl | ⟨secret, -⟩
      · rfl
      · exact absurd secret shown
  adminExtras := alike.adminExtras

namespace SameShown

theorem text_eq (same : source.SameShown other) (key : String) (shown : key ≠ Key.wifiPassword) :
    source.text strictness key = other.text strictness key := by
  unfold text
  rw [same.values key shown]

theorem flag_eq (same : source.SameShown other) (key : String) (shown : key ≠ Key.wifiPassword) :
    source.flag strictness key = other.flag strictness key := by
  unfold flag
  rw [same.values key shown]

theorem integer_eq (same : source.SameShown other) (key : String) (shown : key ≠ Key.wifiPassword) :
    source.integer strictness key = other.integer strictness key := by
  unfold integer
  rw [same.values key shown]

theorem portNumber_eq (same : source.SameShown other) (key : String) (shown : key ≠ Key.wifiPassword) :
    source.portNumber strictness key = other.portNumber strictness key := by
  unfold portNumber
  rw [same.integer_eq key shown]

theorem component_eq (same : source.SameShown other) (key : String) (shown : key ≠ Key.wifiPassword) :
    source.component strictness key = other.component strictness key := by
  unfold component
  rw [same.text_eq key shown]

theorem download_eq (same : source.SameShown other) :
    source.download strictness = other.download strictness := by
  unfold FieldSource.download
  rw [same.text_eq Key.downloadLocation (by decide),
    same.text_eq Key.downloadChecksum (by decide)]

/-- The public trigger reads nothing about the network. -/
theorem publicParams_eq (same : source.SameShown other) :
    source.publicParams = other.publicParams := by
  unfold FieldSource.publicParams
  rw [same.text_eq Key.adminPackage (by decide),
    same.component_eq Key.adminComponent (by decide),
    same.flag_eq Key.skipEncryption (by decide),
    same.flag_eq Key.leaveSystemApps (by decide), same.adminExtras]

variable {change otherChange : Option String → Option String}

/-- Networks are read alike up to a change of their passwords that makes these alike. -/
theorem wifi (same : source.SameShown other)
    (passwords : change <$> source.text strictness Key.wifiPassword =
      otherChange <$> other.text strictness Key.wifiPassword) :
    Wifi.mapPassword change <$> source.wifi strictness =
      Wifi.mapPassword otherChange <$> other.wifi strictness := by
  unfold FieldSource.wifi
  rw [same.text_eq Key.wifiSsid (by decide),
    same.flag_eq Key.wifiHidden (by decide),
    same.text_eq Key.wifiSecurityType (by decide),
    same.text_eq Key.wifiProxyHost (by decide),
    same.portNumber_eq Key.wifiProxyPort (by decide),
    same.text_eq Key.wifiProxyBypass (by decide),
    same.text_eq Key.wifiPacUrl (by decide)]
  simp only [map_bind, map_pure]
  refine bind_congr fun ssid => bind_congr fun hidden => bind_congr fun securityType => ?_
  refine bind_eq_of_map_eq passwords fun password different changed => ?_
  refine bind_congr fun proxyHost => bind_congr fun proxyPort => bind_congr fun proxyBypass =>
    bind_congr fun pacUrl => ?_
  simp only [Wifi.mapPassword, changed]

theorem fullParams (same : source.SameShown other)
    (passwords : change <$> source.text strictness Key.wifiPassword =
      otherChange <$> other.text strictness Key.wifiPassword) :
    Params.mapPassword change <$> source.fullParams strictness =
      Params.mapPassword otherChange <$> other.fullParams strictness := by
  unfold FieldSource.fullParams
  rw [same.download_eq, same.text_eq Key.adminPackage (by decide),
    same.component_eq Key.adminComponent (by decide),
    same.flag_eq Key.skipEncryption (by decide),
    same.flag_eq Key.leaveSystemApps (by decide),
    same.text_eq Key.locale (by decide), same.text_eq Key.timeZone (by decide),
    same.integer_eq Key.localTime (by decide), same.adminExtras]
  simp only [map_bind, map_pure]
  refine bind_congr fun download => ?_
  refine bind_eq_of_map_eq (same.wifi passwords) fun wifi different changed => ?_
  simp only [Params.mapPassword, changed]

end SameShown

theorem text_of_full (strictness : Strictness) {key : String} {value : Json} (found : source.get? key = some value)
    (full : value.IsFullText) : ∃ given, source.text strictness key = .ok (some given) := by
  cases value with
  | text value =>
    have filled : value.isEmpty = false := by simpa [Json.IsFullText] using full
    exact ⟨value, by simp only [text, found, filled, Bool.false_eq_true, if_false]⟩
  | _ => exact full.elim

/-- The password is read from both or from neither. -/
theorem Alike.password (alike : source.Alike other) :
    (Option.map fun _ => Properties.mask) <$> source.text strictness Key.wifiPassword =
      (Option.map fun _ => Properties.mask) <$> other.text strictness Key.wifiPassword := by
  have values := alike.values Key.wifiPassword
  cases found : source.get? Key.wifiPassword with
  | none =>
    cases otherFound : other.get? Key.wifiPassword with
    | none => simp only [text, found, otherFound]
    | some different =>
      rw [found, otherFound] at values
      cases values
  | some value =>
    cases otherFound : other.get? Key.wifiPassword with
    | none =>
      rw [found, otherFound] at values
      cases values
    | some different =>
      rw [found, otherFound] at values
      cases values with
      | some values =>
        rcases values with rfl | ⟨-, full, otherFull⟩
        · simp only [text, found, otherFound]
        · obtain ⟨given, read⟩ := text_of_full strictness found full
          obtain ⟨otherGiven, otherRead⟩ :=
            text_of_full strictness otherFound otherFull
          rw [read, otherRead]
          rfl

theorem Alike.fullParams (alike : source.Alike other) :
    Params.masked <$> source.fullParams strictness =
      Params.masked <$> other.fullParams strictness :=
  alike.sameShown.fullParams alike.password

end FieldSource

/-! ## Requests -/

theorem find?_alike {records others : List TagRecord}
    (alike : List.Forall₂ TagRecord.Alike records others) :
    Option.Rel TagRecord.Alike
      (records.find? fun record => record.mimeType == provisioningMimeType)
      (others.find? fun record => record.mimeType == provisioningMimeType) := by
  induction alike with
  | nil => exact .none
  | cons head tail ih =>
    rw [List.find?_cons, List.find?_cons, ← head.mimeType]
    split
    · exact .some head
    · exact ih

namespace Payload

variable {payload other : Payload}

theorem Alike.discoveredParams (alike : payload.Alike other) :
    Params.masked <$> payload.discoveredParams = Params.masked <$> other.discoveredParams := by
  cases alike with
  | extras alike => rfl
  | @discovery records others alike =>
    have found := find?_alike alike
    simp only [Payload.discoveredParams]
    generalize records.find? _ = left at found
    generalize others.find? _ = right at found
    cases found with
    | none => rfl
    | some record =>
      simp only [map_bind, map_pure]
      refine bind_eq_of_map_eq (FieldSource.alike_properties record.parse).fullParams ?_
      intro params different masked
      exact congrArg (fun p : Params => Except.ok { p with startedByDiscovery := true }) masked

theorem Alike.legacyParams (alike : payload.Alike other) :
    Params.masked <$> payload.legacyParams = Params.masked <$> other.legacyParams := by
  cases alike with
  | discovery alike => rfl
  | @extras found others alike =>
    have sources := FieldSource.alike_extras alike
    rw [legacyParams_extras, legacyParams_extras,
      sources.sameShown.flag_eq Key.startedByDiscovery (by decide)]
    simp only [map_bind, map_pure]
    refine bind_eq_of_map_eq sources.fullParams fun params different masked => ?_
    refine bind_congr fun startedByDiscovery => ?_
    exact congrArg (fun p : Params => Except.ok { p with startedByDiscovery }) masked

theorem Alike.publicParams (alike : payload.Alike other) (caller : Option String) :
    payload.publicParams caller = other.publicParams caller := by
  cases alike with
  | discovery alike => rfl
  | @extras found others alike =>
    rw [publicParams_extras, publicParams_extras,
      (FieldSource.alike_extras alike).sameShown.publicParams_eq]

theorem redacted_extras (found : TextMap Json) :
    (extras found).redacted = extras (maskEntry found Key.wifiPassword) := rfl

theorem Alike.redacted (alike : payload.Alike other) : payload.redacted = other.redacted := by
  cases alike with
  | discovery alike =>
    exact congrArg Payload.discovery (map_eq_of_forall₂ (fun _ _ record => record.redacted) alike)
  | extras alike => rw [redacted_extras, redacted_extras, maskEntry_alike alike]

end Payload

namespace Request

variable {r other : Request}

theorem Alike.actionParams (alike : r.Alike other) :
    Params.masked <$> r.actionParams = Params.masked <$> other.actionParams := by
  unfold Request.actionParams
  rw [← alike.action, ← alike.callingPrincipal]
  cases r.action with
  | ndefDiscovered => exact alike.payload.discoveredParams
  | legacyProvision => exact alike.payload.legacyParams
  | provision => exact congrArg _ (alike.payload.publicParams _)
  | unknown identifier => rfl

/-- Requests that differ in the password are parsed alike, for the same fault if they are
rejected. -/
theorem Alike.parse (alike : r.Alike other) :
    Params.masked <$> r.parse = Params.masked <$> other.parse := by
  unfold Request.parse
  simp only [map_bind]
  refine bind_eq_of_map_eq alike.actionParams fun params different masked => ?_
  have admin : params.admin? = different.admin? := by
    rw [← params.admin?_masked, masked, different.admin?_masked]
  rw [admin]
  split
  · rfl
  · exact congrArg Except.ok masked

/-- Requests that differ in the password are shown alike. -/
theorem Alike.redacted (alike : r.Alike other) : r.redacted = other.redacted := by
  unfold Request.redacted
  rw [alike.payload.redacted, alike.action, alike.callingPrincipal, alike.resumedAttempt]

end Request

theorem Params.extrasEntries_masked (p : Params) :
    List.Forall₂ (EntriesAlike fun _ => True) p.extrasEntries p.masked.extrasEntries := by
  have password : List.Forall₂ (EntriesAlike fun _ => True)
      (textEntry Key.wifiPassword p.wifi.password)
      (textEntry Key.wifiPassword p.wifi.masked.password) := by
    unfold Wifi.masked textEntry
    cases p.wifi.password with
    | none => exact .nil
    | some given => exact .cons ⟨rfl, .inr ⟨rfl, trivial, trivial⟩⟩ .nil
  have same (entries : List (String × Json)) :
      List.Forall₂ (EntriesAlike fun _ => True) entries entries :=
    forall₂_entriesAlike_refl entries
  unfold Params.extrasEntries Wifi.extrasEntries
  repeat first | exact password | exact same _ | refine List.rel_append ?_ ?_

/-- The requests that take up the same attempt with parameters that differ in the password are shown
alike. -/
theorem Params.resumeRequest_redacted {p q : Params} (masked : p.masked = q.masked)
    (attempt : AttemptId) :
    (p.resumeRequest attempt).redacted = (q.resumeRequest attempt).redacted := by
  have hidden (p : Params) :
      (p.resumeRequest attempt).redacted = (p.masked.resumeRequest attempt).redacted := by
    have extras : maskEntry p.toExtras Key.wifiPassword =
        maskEntry p.masked.toExtras Key.wifiPassword :=
      maskEntry_alike (TextMap.alike_ofPairs p.extrasEntries_masked)
    simp only [Request.redacted, resumeRequest, Payload.redacted_extras, extras]
  rw [hidden p, masked, ← hidden q]

end ProvisionGate
