import Mathlib.Data.List.Basic
import ProvisionGate.Proofs.Component
import ProvisionGate.Proofs.Numeral
import ProvisionGate.Proofs.Request.Properties
import ProvisionGate.Proofs.Request.Reading

/-!
# What the body of a tag asks for

A body is a matter of what its lines give to the keys of the fields: whether it is well-formed, which
admin it names and which parameters it asks for.  The parameters are described field by field, which
leaves no choice, and a strict reader of the properties finds just those.
-/

namespace ProvisionGate

open Entry

attribute [ext] Download Wifi Params

namespace Key

/-- The keys of the fields that a tag sets with one property each. -/
def onTag : List String := [
  adminPackage, adminComponent, downloadLocation, downloadChecksum, skipEncryption, leaveSystemApps,
  locale, timeZone, localTime, wifiSsid, wifiHidden, wifiSecurityType, wifiPassword, wifiProxyHost,
  wifiProxyPort, wifiProxyBypass, wifiPacUrl]

/-- The property under a key is read: it is that of a field or of an admin extra with a name. -/
def IsOnTag (key : String) : Prop :=
  key ∈ onTag ∨ ∃ name, name ≠ "" ∧ key = adminExtraBeginning ++ name

end Key

namespace Properties

section

variable (body : String)

/-- The text of a body under a key: what the body gives the key, unless it is empty. -/
def GivesText (key : String) (text : Option String) : Prop :=
  ∀ value, text = some value ↔ Gives body key value ∧ value ≠ ""

/-- The flag of a body under a key: it is up if the body says so. -/
def GivesFlag (key : String) (flag : Bool) : Prop :=
  flag = true ↔ Gives body key "true"

/-- What a body gives a flag is one of two words. -/
def FlagFits (key : String) : Prop :=
  ∀ value, Gives body key value → value = "true" ∨ value = "false"

/-- What a body gives to the keys of the fields is well-formed. -/
structure IsWellFormed : Prop where
  wifiHidden : FlagFits body Key.wifiHidden
  skipEncryption : FlagFits body Key.skipEncryption
  leaveSystemApps : FlagFits body Key.leaveSystemApps
  proxyPort : ∀ value, Gives body Key.wifiProxyPort value →
    ∃ port : Int, Text.Writes value.toList port ∧ 1 ≤ port ∧ port ≤ 65535
  localTime : ∀ value, Gives body Key.localTime value →
    ∃ time : Int, Text.Writes value.toList time ∧ Text.FitsInt64 time
  adminComponent : ∀ flat, Gives body Key.adminComponent flat → flat ≠ "" →
    ∃ c, Component.unflatten? flat = some c

/-- A body names an admin: by the package of its component or, without one, by a package. -/
inductive NamesAdmin : String → Prop
  | component {flat : String} {c : Component} (given : Gives body Key.adminComponent flat)
      (read : Component.unflatten? flat = some c) : NamesAdmin c.package
  | package {name : String} (bare : ∀ flat, Gives body Key.adminComponent flat → flat = "")
      (given : Gives body Key.adminPackage name) (full : name ≠ "") : NamesAdmin name

/-- The parameters that a body asks for. -/
structure Describes (p : Params) : Prop where
  adminPackage : GivesText body Key.adminPackage p.adminPackage
  adminComponent : ∀ c, p.adminComponent = some c ↔
    ∃ flat, Gives body Key.adminComponent flat ∧ Component.unflatten? flat = some c
  location : GivesText body Key.downloadLocation (p.adminDownload.map Download.location)
  checksum : ∀ download, p.adminDownload = some download →
    GivesText body Key.downloadChecksum download.checksum
  startedByDiscovery : p.startedByDiscovery = true
  skipEncryption : GivesFlag body Key.skipEncryption p.skipEncryption
  leaveSystemApps : GivesFlag body Key.leaveSystemApps p.leaveSystemApps
  ssid : GivesText body Key.wifiSsid p.wifi.ssid
  hidden : GivesFlag body Key.wifiHidden p.wifi.hidden
  securityType : GivesText body Key.wifiSecurityType p.wifi.securityType
  password : GivesText body Key.wifiPassword p.wifi.password
  proxyHost : GivesText body Key.wifiProxyHost p.wifi.proxyHost
  proxyPort : ∀ port, p.wifi.proxyPort = some port ↔
    ∃ value, Gives body Key.wifiProxyPort value ∧ Text.Writes value.toList port.toNat ∧ port ≠ 0
  proxyBypass : GivesText body Key.wifiProxyBypass p.wifi.proxyBypass
  pacUrl : GivesText body Key.wifiPacUrl p.wifi.pacUrl
  locale : GivesText body Key.locale p.locale
  timeZone : GivesText body Key.timeZone p.timeZone
  localTime : ∀ time, p.localTime = some time ↔
    ∃ value, Gives body Key.localTime value ∧ Text.Writes value.toList time.toInt
  adminExtras : ∀ name value, p.adminExtras.get? name = some value ↔
    name ≠ "" ∧ Gives body (Key.adminExtraBeginning ++ name) value

end

variable {body other key : String}

/-- Two optional values are equal if they are present under the same condition. -/
theorem eq_of_eq_some_iff {α : Type} {found again : Option α} {condition : α → Prop}
    (first : ∀ value, found = some value ↔ condition value)
    (second : ∀ value, again = some value ↔ condition value) : found = again := by
  apply Option.ext
  intro value
  exact (first value).trans (second value).symm

theorem GivesText.unique {text again : Option String} (first : GivesText body key text)
    (second : GivesText body key again) : text = again :=
  eq_of_eq_some_iff first second

theorem GivesFlag.unique {flag again : Bool} (first : GivesFlag body key flag)
    (second : GivesFlag body key again) : flag = again := by
  rw [Bool.eq_iff_iff]
  exact first.trans second.symm

namespace Describes

variable {p q : Params} (first : Describes body p) (second : Describes body q)

include first second

theorem wifi_eq : p.wifi = q.wifi := by
  apply Wifi.ext
  · exact first.ssid.unique second.ssid
  · exact first.hidden.unique second.hidden
  · exact first.securityType.unique second.securityType
  · exact first.password.unique second.password
  · exact first.proxyHost.unique second.proxyHost
  · exact eq_of_eq_some_iff first.proxyPort second.proxyPort
  · exact first.proxyBypass.unique second.proxyBypass
  · exact first.pacUrl.unique second.pacUrl

theorem adminDownload_eq : p.adminDownload = q.adminDownload := by
  have location := first.location.unique second.location
  cases left : p.adminDownload with
  | none =>
    rw [left, Option.map_none] at location
    exact (Option.map_eq_none_iff.1 location.symm).symm
  | some here =>
    rw [left, Option.map_some] at location
    obtain ⟨there, right, same⟩ := Option.map_eq_some_iff.1 location.symm
    have checksum := (first.checksum here left).unique (second.checksum there right)
    rw [right, Download.ext same.symm checksum]

theorem adminExtras_eq : p.adminExtras = q.adminExtras := by
  apply TextMap.ext_get?
  intro name
  exact eq_of_eq_some_iff (first.adminExtras name) (second.adminExtras name)

/-- A body asks for one thing only. -/
theorem unique : p = q := by
  apply Params.ext
  · exact first.adminPackage.unique second.adminPackage
  · exact eq_of_eq_some_iff first.adminComponent second.adminComponent
  · exact first.adminDownload_eq second
  · exact first.startedByDiscovery.trans second.startedByDiscovery.symm
  · exact first.skipEncryption.unique second.skipEncryption
  · exact first.leaveSystemApps.unique second.leaveSystemApps
  · exact first.wifi_eq second
  · exact first.locale.unique second.locale
  · exact first.timeZone.unique second.timeZone
  · exact eq_of_eq_some_iff first.localTime second.localTime
  · exact first.adminExtras_eq second

end Describes

/-! ## The entry under a key -/

/-- What the properties of a body have under a key. -/
def entry (body key : String) : Option Json :=
  (FieldSource.properties (parse body)).get? key

/-- A key has a text without blanks at its ends if the body gives it one, and nothing otherwise. -/
theorem entry_cases (body key : String) :
    (entry body key = none ∧ ∀ value, ¬ Gives body key value) ∨
      ∃ given, entry body key = some (.text given) ∧ Text.Trimmed given.toList ∧
        ∀ value, Gives body key value ↔ value = given := by
  cases found : (parse body).get? key with
  | none =>
    refine .inl ⟨congrArg (Option.map Json.text) found, fun value gives => ?_⟩
    rw [get?_parse_eq_some_iff.2 gives] at found
    cases found
  | some given =>
    have gives := get?_parse_eq_some_iff.1 found
    refine .inr ⟨given, congrArg (Option.map Json.text) found, gives.trimmed, fun value => ?_⟩
    constructor
    · intro again
      exact again.unique gives
    · rintro rfl
      exact gives

theorem isText_entry (body key : String) : IsText (entry body key) := by
  rcases entry_cases body key with ⟨none, -⟩ | ⟨given, some, -⟩
  · rw [none]
    trivial
  · rw [some]
    trivial

theorem givesText_textOf (body key : String) : GivesText body key (textOf (entry body key)) := by
  intro value
  rw [textOf_eq_some_iff]
  rcases entry_cases body key with ⟨none, nothing⟩ | ⟨given, some, -, gives⟩
  · simp [none, nothing]
  · simp [some, gives, eq_comm]

theorem isFlag_entry_iff : IsFlag (entry body key) ↔ FlagFits body key := by
  unfold FlagFits
  rcases entry_cases body key with ⟨none, nothing⟩ | ⟨given, some, trimmed, gives⟩
  · simp [none, nothing, IsFlag]
  · simp [some, gives, IsFlag, trimmed.trimmed_eq]

theorem givesFlag_flagOf (body key : String) : GivesFlag body key (flagOf (entry body key)) := by
  unfold GivesFlag
  rcases entry_cases body key with ⟨none, nothing⟩ | ⟨given, some, trimmed, gives⟩
  · simp [none, nothing, flagOf]
  · simp [some, gives, flagOf, trimmed.trimmed_eq, eq_comm]

theorem integerOf_entry_eq_some_iff {number : Int64} :
    integerOf (entry body key) = some number ↔
      ∃ value, Gives body key value ∧ Text.Writes value.toList number.toInt := by
  rcases entry_cases body key with ⟨none, nothing⟩ | ⟨given, some, trimmed, gives⟩
  · simp [none, nothing, integerOf]
  · simp [some, gives, integerOf, trimmed.trim_eq, Text.int64?_eq_some_iff]

theorem isInteger_entry_iff :
    IsInteger (entry body key) ↔
      ∀ value, Gives body key value → ∃ v : Int, Text.Writes value.toList v ∧ Text.FitsInt64 v := by
  rcases entry_cases body key with ⟨none, nothing⟩ | ⟨given, some, trimmed, gives⟩
  · simp [none, nothing, IsInteger]
  · simp [some, gives, IsInteger, trimmed.trim_eq, Text.int64?_isSome_iff]

theorem portOf_entry_eq_some_iff {port : UInt16} :
    portOf (entry body key) = some port ↔
      ∃ value, Gives body key value ∧ Text.Writes value.toList port.toNat ∧ port ≠ 0 := by
  rw [portOf_eq_some_iff]
  constructor
  · rintro ⟨number, read, same, full⟩
    obtain ⟨value, gives, writes⟩ := integerOf_entry_eq_some_iff.1 read
    rw [same] at writes
    exact ⟨value, gives, writes, full⟩
  · rintro ⟨value, gives, writes, full⟩
    have fits : Text.FitsInt64 port.toNat := by
      have bound := port.toNat_lt
      constructor
      · exact Int.le_trans (by decide) (Int.natCast_nonneg port.toNat)
      · exact Int.le_trans (show (port.toNat : Int) ≤ 65535 by omega) (by decide)
    have same := Text.toInt_ofInt_of_fits fits
    exact ⟨_, integerOf_entry_eq_some_iff.2 ⟨value, gives, by rwa [same]⟩, same, full⟩

theorem isPort_entry_iff :
    IsPort (entry body key) ↔
      ∀ value, Gives body key value →
        ∃ port : Int, Text.Writes value.toList port ∧ 1 ≤ port ∧ port ≤ 65535 := by
  unfold IsPort
  rw [isInteger_entry_iff]
  constructor
  · rintro ⟨integers, ports⟩ value gives
    obtain ⟨v, writes, fits⟩ := integers value gives
    have same := Text.toInt_ofInt_of_fits fits
    have real := ports _ (integerOf_entry_eq_some_iff.2 ⟨value, gives, by rwa [same]⟩)
    unfold IsPortNumber at real
    rw [same] at real
    exact ⟨v, writes, real⟩
  · intro ports
    constructor
    · intro value gives
      obtain ⟨port, writes, positive, bound⟩ := ports value gives
      refine ⟨port, writes, ?_, ?_⟩
      · exact Int.le_trans (by decide) positive
      · exact Int.le_trans bound (by decide)
    · intro number read
      obtain ⟨value, gives, writes⟩ := integerOf_entry_eq_some_iff.1 read
      obtain ⟨port, again, real⟩ := ports value gives
      unfold IsPortNumber
      rwa [writes.unique again]

theorem componentOf_entry_eq_some_iff {c : Component} :
    componentOf (entry body key) = some c ↔
      ∃ flat, Gives body key flat ∧ Component.unflatten? flat = some c := by
  unfold componentOf
  rw [Option.bind_eq_some_iff]
  constructor
  · rintro ⟨flat, text, read⟩
    exact ⟨flat, ((givesText_textOf body key flat).1 text).1, read⟩
  · rintro ⟨flat, gives, read⟩
    refine ⟨flat, (givesText_textOf body key flat).2 ⟨gives, ?_⟩, read⟩
    rintro rfl
    cases read

theorem isComponent_entry_iff :
    IsComponent (entry body key) ↔
      ∀ flat, Gives body key flat → flat ≠ "" → ∃ c, Component.unflatten? flat = some c := by
  unfold IsComponent
  constructor
  · rintro ⟨-, sound⟩ flat gives full
    have text := (givesText_textOf body key flat).2 ⟨gives, full⟩
    exact Option.isSome_iff_exists.1 (sound flat text)
  · intro sound
    refine ⟨isText_entry body key, fun flat text => ?_⟩
    obtain ⟨gives, full⟩ := (givesText_textOf body key flat).1 text
    exact Option.isSome_iff_exists.2 (sound flat gives full)

/-- An admin extra has its name behind a beginning that all of them share. -/
theorem adminExtraName?_eq_some_iff {name : String} :
    adminExtraName? key = some name ↔ name ≠ "" ∧ key = Key.adminExtraBeginning ++ name := by
  unfold adminExtraName?
  rw [Option.bind_eq_bind, Option.bind_eq_some_iff]
  constructor
  · rintro ⟨rest, begun, named⟩
    have whole := List.isPrefixOf?_eq_some_iff_append_eq.1 begun
    cases rest with
    | nil => cases named
    | cons c more =>
      obtain rfl := Option.some.inj named
      refine ⟨by simp, String.toList_inj.1 ?_⟩
      rw [String.toList_append, String.toList_ofList, whole]
  · rintro ⟨full, rfl⟩
    refine ⟨name.toList, ?_, ?_⟩
    · exact List.isPrefixOf?_eq_some_iff_append_eq.2 String.toList_append.symm
    · have filled : (!name.toList.isEmpty) = true := by simpa using full
      rw [filled, String.ofList_toList]
      rfl

theorem adminExtra?_eq_some_iff {property : String × String} {name value : String} :
    adminExtra? property = some (name, value) ↔
      name ≠ "" ∧ property = (Key.adminExtraBeginning ++ name, value) := by
  obtain ⟨key, content⟩ := property
  rw [adminExtra?, Option.map_eq_some_iff]
  constructor
  · rintro ⟨found, named, same⟩
    obtain ⟨rfl, rfl⟩ := Prod.mk.inj same
    obtain ⟨full, rfl⟩ := adminExtraName?_eq_some_iff.1 named
    exact ⟨full, rfl⟩
  · rintro ⟨full, same⟩
    obtain ⟨rfl, rfl⟩ := Prod.mk.inj same
    exact ⟨name, adminExtraName?_eq_some_iff.2 ⟨full, rfl⟩, rfl⟩

/-- The admin extras are the properties whose keys have a name behind the beginning. -/
theorem get?_extrasRead_eq_some_iff {name value : String} :
    (FieldSource.properties (parse body)).extrasRead.get? name = some value ↔
      name ≠ "" ∧ Gives body (Key.adminExtraBeginning ++ name) value := by
  rw [FieldSource.extrasRead, TextMap.get?_ofPairs_filterMap_eq_some_iff,
    ← get?_parse_eq_some_iff, TextMap.get?_eq_some_iff]
  constructor
  · rintro ⟨before, property, after, split, named, -⟩
    obtain ⟨full, rfl⟩ := adminExtra?_eq_some_iff.1 named
    exact ⟨full, by simp [split]⟩
  · rintro ⟨full, member⟩
    obtain ⟨before, after, split⟩ := List.append_of_mem member
    refine ⟨before, _, after, split, adminExtra?_eq_some_iff.2 ⟨full, rfl⟩, ?_⟩
    rintro later inside other named
    obtain ⟨-, rfl⟩ := adminExtra?_eq_some_iff.1 named
    -- Every key stands once in a map.
    have ordered := (parse body).ordered
    rw [split] at ordered
    have behind := (List.pairwise_append.1 ordered).2.1
    have apart := (List.pairwise_cons.1 behind).1 _ inside
    exact String.lt_irrefl _ apart

/-! ## The whole body -/

theorem isWellFormed_iff :
    (FieldSource.properties (parse body)).IsWellFormed ↔ IsWellFormed body := by
  constructor
  · intro fits
    exact {
      wifiHidden := isFlag_entry_iff.1 fits.wifi.hidden
      skipEncryption := isFlag_entry_iff.1 fits.skipEncryption
      leaveSystemApps := isFlag_entry_iff.1 fits.leaveSystemApps
      proxyPort := isPort_entry_iff.1 fits.wifi.proxyPort
      localTime := isInteger_entry_iff.1 fits.localTime
      adminComponent := isComponent_entry_iff.1 fits.adminComponent }
  · intro fits
    exact {
      location := isText_entry body _
      checksum := fun _ => isText_entry body _
      wifi := {
        ssid := isText_entry body _
        hidden := isFlag_entry_iff.2 fits.wifiHidden
        securityType := isText_entry body _
        password := isText_entry body _
        proxyHost := isText_entry body _
        proxyPort := isPort_entry_iff.2 fits.proxyPort
        proxyBypass := isText_entry body _
        pacUrl := isText_entry body _ }
      adminPackage := isText_entry body _
      adminComponent := isComponent_entry_iff.2 fits.adminComponent
      skipEncryption := isFlag_entry_iff.2 fits.skipEncryption
      leaveSystemApps := isFlag_entry_iff.2 fits.leaveSystemApps
      locale := isText_entry body _
      timeZone := isText_entry body _
      localTime := isInteger_entry_iff.2 fits.localTime
      adminExtras := trivial }

/-- What a discovered tag with a body is read to. -/
def tagRead (body : String) : Params :=
  { (FieldSource.properties (parse body)).paramsRead with startedByDiscovery := true }

theorem describes_tagRead (body : String) : Describes body (tagRead body) where
  adminPackage := givesText_textOf body _
  adminComponent _ := componentOf_entry_eq_some_iff
  location value := by
    rw [← givesText_textOf body Key.downloadLocation value]
    show (Option.map _ (textOf (entry body _))).map Download.location = some value ↔ _
    cases textOf (entry body Key.downloadLocation) <;> exact Iff.rfl
  checksum download some := by
    obtain ⟨location, -, rfl⟩ := Option.map_eq_some_iff.1 some
    exact givesText_textOf body _
  startedByDiscovery := rfl
  skipEncryption := givesFlag_flagOf body _
  leaveSystemApps := givesFlag_flagOf body _
  ssid := givesText_textOf body _
  hidden := givesFlag_flagOf body _
  securityType := givesText_textOf body _
  password := givesText_textOf body _
  proxyHost := givesText_textOf body _
  proxyPort _ := portOf_entry_eq_some_iff
  proxyBypass := givesText_textOf body _
  pacUrl := givesText_textOf body _
  locale := givesText_textOf body _
  timeZone := givesText_textOf body _
  localTime _ := integerOf_entry_eq_some_iff
  adminExtras _ _ := get?_extrasRead_eq_some_iff

/-- The admin that parameters are for is the one that the body names. -/
theorem Describes.admin?_eq_some_iff {p : Params} {admin : String} (described : Describes body p)
    (wellFormed : IsWellFormed body) : p.admin? = some admin ↔ NamesAdmin body admin := by
  rw [Params.admin?_eq_some_iff_given described.adminPackage described.adminComponent
    wellFormed.adminComponent]
  constructor
  · rintro (⟨flat, c, given, read, rfl⟩ | ⟨bare, given, full⟩)
    · exact .component given read
    · exact .package bare given full
  · intro named
    cases named with
    | component given read => exact .inl ⟨_, _, given, read, rfl⟩
    | package bare given full => exact .inr ⟨bare, given, full⟩

/-! ## What does not matter -/

/-- Two bodies give the same to every key that is read. -/
def Agree (body other : String) : Prop :=
  ∀ key, Key.IsOnTag key → ∀ value, Gives body key value ↔ Gives other key value

/-- A line asks for nothing: it is a comment, or it holds no property that is read. -/
inductive IsIdle (line : List Char) : Prop
  | comment {mark : Char} (begins : mark ∈ (Text.trim line).head?)
      (marks : isCommentMark mark = true) : IsIdle line
  | unread (unread : ∀ key value, Holds line key value → ¬ Key.IsOnTag key) : IsIdle line

/-- A body has the lines of another one and one idle line. -/
def AddsIdle (body other : String) : Prop :=
  ∃ before line after, Text.lines body.toList = before ++ line :: after ∧
    Text.lines other.toList = before ++ after ∧ IsIdle line

theorem IsIdle.not_holds {line : List Char} {value : String} (idle : IsIdle line)
    (read : Key.IsOnTag key) : ¬ Holds line key value := by
  intro held
  cases idle with
  | unread unread => exact unread _ _ held read
  | comment begins marks =>
    obtain ⟨whole, separates, -, counts⟩ := held
    rename_i front back separator
    rw [whole] at begins
    cases front with
    | nil =>
      obtain rfl := Option.some.inj begins
      rw [isCommentMark_of_isSeparator separates] at marks
      cases marks
    | cons c rest =>
      rw [counts _ begins] at marks
      cases marks

theorem AddsIdle.agree (adds : AddsIdle body other) : Agree body other := by
  intro key read value
  obtain ⟨before, line, after, split, rest, idle⟩ := adds
  have nothing : ([line].filterMap property?).reverse.lookup key = none := by
    cases held : property? line with
    | none => simp [held]
    | some property =>
      obtain ⟨name, content⟩ := property
      have different : key ≠ name := by
        rintro rfl
        exact idle.not_holds read (property?_eq_some_iff.1 held)
      simp [held, different]
  rw [← get?_parse_eq_some_iff, ← get?_parse_eq_some_iff, parse, parse, split, rest,
    TextMap.get?_ofPairs, TextMap.get?_ofPairs]
  have lines : before ++ line :: after = before ++ [line] ++ after := by simp
  rw [lines, List.filterMap_append, List.filterMap_append, List.filterMap_append,
    List.reverse_append, List.reverse_append, List.reverse_append, List.lookup_append,
    List.lookup_append, List.lookup_append, nothing, Option.none_or]

theorem Agree.get?_eq (agree : Agree body other) (read : key ∈ Key.onTag) :
    (FieldSource.properties (parse body)).get? key =
      (FieldSource.properties (parse other)).get? key := by
  have same : (parse body).get? key = (parse other).get? key :=
    eq_of_eq_some_iff (fun _ => get?_parse_eq_some_iff) fun value =>
      get?_parse_eq_some_iff.trans (agree key (.inl read) value).symm
  exact congrArg (Option.map Json.text) same

theorem Agree.extrasRead_eq (agree : Agree body other) :
    (FieldSource.properties (parse body)).extrasRead =
      (FieldSource.properties (parse other)).extrasRead := by
  apply TextMap.ext_get?
  intro name
  apply Option.ext
  intro value
  rw [get?_extrasRead_eq_some_iff, get?_extrasRead_eq_some_iff]
  apply and_congr_right
  intro full
  exact agree _ (.inr ⟨name, full, rfl⟩) value

/-- Bodies that agree are read alike, also if they are refused. -/
theorem Agree.fullParams_eq (agree : Agree body other) (strictness : Strictness) :
    (FieldSource.properties (parse body)).fullParams strictness =
      (FieldSource.properties (parse other)).fullParams strictness := by
  have extras : (FieldSource.properties (parse body)).adminExtras strictness =
      (FieldSource.properties (parse other)).adminExtras strictness :=
    congrArg Except.ok agree.extrasRead_eq
  have entries : ∀ key ∈ Key.onTag, (FieldSource.properties (parse body)).get? key =
      (FieldSource.properties (parse other)).get? key := fun key => agree.get?_eq
  simp only [Key.onTag, List.forall_mem_cons] at entries
  simp only [FieldSource.fullParams, FieldSource.download, FieldSource.wifi, FieldSource.text,
    FieldSource.flag, FieldSource.portNumber, FieldSource.integer, FieldSource.component, entries,
    extras]

end Properties

end ProvisionGate
