import Wwan.Lib.GoMap
import Wwan.Modem.Profiles
import Wwan.Modem.QmiConnect
import Wwan.Qcom.ProfileRequests

/-! The profiles of a QMI modem: the requests that address them, and the profile that the modem attaches with. -/

namespace Wwan.Modem.Qmi.Profiles

open Wwan.Qcom

/-- The settings of the initial attach. -/
structure InitialEPSConfig where
  profileID : Int32 := 0
  apn : GoString := []
  ipFamily : IPFamily := 0
  authentication : Authentication := 0
  username : GoString := []
  password : GoString := []
  deriving DecidableEq

/-- The errors of the calls about profiles. -/
inductive ProfileError where
  /-- A check of the client. -/
  | message (error : MessageError)
  /-- A request that the modem did not answer with success. -/
  | failed
  /-- A text about a profile ID. -/
  | profileID (text : String) (id : Int32)
  /-- A text about a mask. -/
  | mask (text : String) (value : Nat)
  /-- An error behind a context. -/
  | wrap (context : String) (cause : ProfileError)
  /-- The errors of a request and of what was done to undo the call. -/
  | join (first second : ProfileError)
  /-- The error of a request of which the call was undone. -/
  | joinNil (first : ProfileError)
  deriving DecidableEq

/-! The settings of a profile and what the modem calls them. -/

/-- The packet data protocol of an IP family. -/
def pdpTypeFromIPFamily (family : IPFamily) : WDSPDPType :=
  if family = Modem.IPFamily.ipv6 then WDSPDPType.ipv6
  else if family = Modem.IPFamily.ipv4v6 then WDSPDPType.ipv4v6
  else WDSPDPType.ipv4

/-- The IP family of a packet data protocol. -/
def ipFamilyFromPDPType (pdp : WDSPDPType) : IPFamily :=
  if pdp = WDSPDPType.ipv6 then Modem.IPFamily.ipv6
  else if pdp = WDSPDPType.ipv4v6 then Modem.IPFamily.ipv4v6
  else if pdp = WDSPDPType.ipv4 then Modem.IPFamily.ipv4
  else Modem.IPFamily.unknown

/-- The authentication protocols that the modem is asked for. -/
def authenticationMask (authentication : Authentication) : WDSAuthenticationMask :=
  (if authentication &&& Authentication.pap ≠ 0 then WDSAuthenticationMask.pap else 0)
    ||| (if authentication &&& (Authentication.chap ||| Authentication.mschapv2) ≠ 0 then WDSAuthenticationMask.chap else 0)

/-- The authentication protocols of a profile. -/
def authenticationFromMask (mask : WDSAuthenticationMask) : Authentication :=
  (if mask &&& WDSAuthenticationMask.pap ≠ 0 then Authentication.pap else 0)
    ||| (if mask &&& WDSAuthenticationMask.chap ≠ 0 then Authentication.chap else 0)

/-- The uses of a connection next to the modem's names for them. -/
def apnTypes : List (APNType × WDSAPNTypeMask) :=
  [(APNType.default, WDSAPNTypeMask.default), (APNType.ims, WDSAPNTypeMask.ims), (APNType.mms, WDSAPNTypeMask.mms),
    (APNType.tethering, WDSAPNTypeMask.dun), (APNType.supl, WDSAPNTypeMask.supl),
    (APNType.emergency, WDSAPNTypeMask.emergency)]

/-- The uses of a profile to set. -/
def apnTypeMask (value : APNType) : WDSAPNTypeMask :=
  apnTypes.foldl (fun result bit => if value &&& bit.1 ≠ 0 then result ||| bit.2 else result) 0

/-- The uses of a profile. -/
def apnTypeFromMask (value : WDSAPNTypeMask) : APNType :=
  apnTypes.foldl (fun result bit => if value &&& bit.2 ≠ 0 then result ||| bit.1 else result) 0

/-- The profile that settings describe. -/
def profileFromSettings (settings : WDSProfileSettings) : Profile where
  id := settings.id.index.toUInt32.toInt32
  apn := settings.apn.value
  ipFamily := ipFamilyFromPDPType settings.pdpType.value
  authentication := authenticationFromMask settings.authentication.value
  username := settings.username.value
  password := settings.password.value
  apnType := apnTypeFromMask settings.apnType.value
  enabled := !settings.apnDisabled.value

/-- The attach settings that a profile gives. -/
def initialEPSFromProfile (profile : Profile) : InitialEPSConfig where
  profileID := profile.id
  apn := profile.apn
  ipFamily := profile.ipFamily
  authentication := profile.authentication
  username := profile.username
  password := profile.password

/-! What is sent, and how it is answered. -/

/-- A request as it was sent, with what it did on the modem. -/
inductive Request where
  | attachList
  | setAttachList (profiles : List UInt16) (applied : Bool)
  /-- The modem has made a profile under an index, whether or not its answer arrived. -/
  | create (fields : WDSProfileUpdate) (made : Option UInt8)
  | modify (index : UInt8) (fields : WDSProfileUpdate) (applied : Bool)
  | delete (index : UInt8) (applied : Bool)
  /-- The settings of the profile that the call is about. -/
  | read (index : UInt8)
  /-- The settings of the profile that the attach list begins with. -/
  | readListed (index : UInt8)
  /-- A connection, with the index of a profile if it names one. -/
  | startNetwork (index : Option UInt8)

/-- How a request that changes something is answered. -/
inductive Outcome where
  | ok
  /-- The client has no answer or an error, whether or not the modem has done what it was asked. -/
  | failed (applied : Bool)
  deriving DecidableEq

/-- The modem has done what it was asked. -/
def Outcome.applied : Outcome → Bool
  | .ok => true
  | .failed applied => applied

/-- How the request for a new profile is answered. -/
inductive CreateOutcome where
  | created (index : UInt8)
  /-- The client has no index, whether or not the modem has made a profile. -/
  | failed (made : Option UInt8)
  deriving DecidableEq

/-- The profile that the modem has made. -/
def CreateOutcome.made : CreateOutcome → Option UInt8
  | .created index => some index
  | .failed made => made

/-- How far a data session gets. -/
inductive OpenOutcome where
  | opened
  /-- The session fails before the network is started. -/
  | notStarted
  /-- The request that starts the network is sent, and it or a later one fails. -/
  | failed
  deriving DecidableEq

/--
How the requests of one call are answered, each of which a call makes once.

A request that `withServiceClient` repeats after an invalid client ID, which has no effect, is answered the second time.
-/
structure Answers where
  /-- The attach list with its flag, unless the request fails. -/
  attachList : Option (Option (List UInt16))
  create : CreateOutcome
  modify : Outcome
  /-- The settings of the profile that was created or modified. -/
  read : Option WDSProfileSettings
  setAttachList : Outcome
  delete : Outcome
  /-- The attach list after it was set. -/
  attachListAfter : Option (Option (List UInt16))
  /-- The settings of the profile that the attach list begins with. -/
  readListed : Option WDSProfileSettings
  /-- The attach settings that the network has chosen. -/
  bearer : Option InitialEPSConfig
  /-- The network link of the port is prepared. -/
  link : Bool
  /-- The data sessions of a connection. -/
  opens : Nat → OpenOutcome

/-- What a call sends and returns. -/
abbrev Call (α : Type) := List Request × Except ProfileError α

/-- Go on after a call that returned a value. -/
def Call.bind {α β : Type} (call : Call α) (next : α → Call β) : Call β :=
  match call.2 with
  | .ok value => (call.1 ++ (next value).1, (next value).2)
  | .error err => (call.1, .error err)

/-- A call that returns an error and sends nothing more. -/
def Call.fail {α : Type} (err : ProfileError) : Call α := ([], .error err)

/-- A check of the client, which sends nothing. -/
def Call.check {α : Type} (checked : Go MessageError α) : Call α :=
  match checked with
  | .ok value => ([], .ok value)
  | .error (.err err) => Call.fail (.message err)
  | .error .outOfRange => Call.fail .failed

/-- The error of a call behind a context. -/
def Call.wrap {α : Type} (context : String) (call : Call α) : Call α :=
  match call.2 with
  | .ok _ => call
  | .error err => (call.1, .error (.wrap context err))

section

variable (a : Answers)

/-- `WDSProfileSettings`, which puts the profile that was asked for into the answer. -/
def wdsProfileSettings (request : UInt8 → Request) (answer : Option WDSProfileSettings) (id : WDSProfileID) :
    Call WDSProfileSettings :=
  match answer with
  | some settings => ([request id.index], .ok { settings with id := id })
  | none => ([request id.index], .error .failed)

/-- `WDSUpdateProfile` -/
def wdsUpdateProfile (id : WDSProfileID) (update : WDSProfileUpdate) : Call Unit :=
  (Call.check (checkWDSUpdateProfile id update)).bind fun _ =>
    match a.modify with
    | .ok => ([.modify id.index update true], .ok ())
    | .failed applied => ([.modify id.index update applied], .error .failed)

/-- `WDSDeleteProfile` -/
def wdsDeleteProfile (index : UInt8) : Call Unit :=
  match a.delete with
  | .ok => ([.delete index true], .ok ())
  | .failed applied => ([.delete index applied], .error .failed)

/-- `WDSCreateProfileWithConfig` -/
def wdsCreateProfileWithConfig (cfg : WDSProfileConfig) : Call WDSProfileID :=
  (Call.check (checkWDSCreateProfile cfg)).bind fun fields =>
    match a.create with
    | .created index => ([.create fields (some index)], .ok ⟨cfg.type, index⟩)
    | .failed made => ([.create fields made], .error .failed)

/-- `WDSSetLTEAttachPDNList` -/
def wdsSetLTEAttachPDNList (profiles : List UInt16) : Call Unit :=
  (Call.check (checkWDSSetLTEAttachPDNList profiles)).bind fun _ =>
    match a.setAttachList with
    | .ok => ([.setAttachList profiles true], .ok ())
    | .failed applied => ([.setAttachList profiles applied], .error .failed)

/-- `WDSLTEAttachPDNList` -/
def wdsLTEAttachPDNList (answer : Option (Option (List UInt16))) : Call (Option (List UInt16)) :=
  match answer with
  | some list => ([.attachList], .ok list)
  | none => ([.attachList], .error .failed)

/-! The calls of the backend. -/

/-- The changes of a profile as the modem is asked for them. -/
def wdsUpdate (update : ProfileUpdate) : WDSProfileUpdate where
  apn := update.apn
  username := update.username
  password := update.password
  pdpType := update.ipFamily.map pdpTypeFromIPFamily
  authentication := update.authentication.map authenticationMask
  apnType := update.apnType.map apnTypeMask
  apnDisabled := update.enabled.map fun enabled => !enabled

/-- The profile to create as the modem is asked for it. -/
def wdsConfig (cfg : ProfileConfig) : WDSProfileConfig where
  type := wdsProfileType3GPP
  apn := cfg.apn
  pdpType := pdpTypeFromIPFamily cfg.ipFamily
  username := cfg.username
  password := cfg.password
  authentication := authenticationMask cfg.authentication
  apnDisabled := some (!cfg.enabled)
  apnType := some (apnTypeMask cfg.apnType)

/-- `CreateProfile` -/
def createProfile (cfg : ProfileConfig) : Call Profile :=
  (wdsCreateProfileWithConfig a (wdsConfig cfg)).bind fun id =>
    (Call.wrap "reading created profile" (wdsProfileSettings .read a.read id)).bind fun settings =>
      ([], .ok (profileFromSettings settings))

/-- `UpdateProfile` -/
def updateProfile (update : ProfileUpdate) : Call Profile :=
  let id : WDSProfileID := ⟨wdsProfileType3GPP, update.id.toUInt32.toUInt8⟩
  (wdsUpdateProfile a id (wdsUpdate update)).bind fun _ =>
    (Call.wrap "reading updated profile" (wdsProfileSettings .read a.read id)).bind fun settings =>
      ([], .ok (profileFromSettings settings))

/-- `DeleteProfile` -/
def deleteProfile (id : Int32) : Call Unit :=
  if id > 255 then Call.fail (.profileID "deleting profile: profile ID %d exceeds 255" id)
  else wdsDeleteProfile a id.toUInt32.toUInt8

/-- `InitialEPSSettings` -/
def initialEPSSettings : Call InitialEPSConfig :=
  (wdsLTEAttachPDNList a.attachListAfter).bind fun list =>
    match list with
    -- Without a list the attach settings are those of the bearer.
    | none | some [] =>
      match a.bearer with
      | some config => ([], .ok config)
      | none => Call.fail .failed
    | some (first :: _) =>
      if first > 255 then
        Call.fail (.profileID "reading initial EPS settings: profile ID %d exceeds 255" first.toUInt32.toInt32)
      else
        (Call.wrap "reading initial EPS profile %d"
          (wdsProfileSettings .readListed a.readListed ⟨wdsProfileType3GPP, first.toUInt8⟩)).bind fun settings =>
          ([], .ok (initialEPSFromProfile (profileFromSettings settings)))

/-- The changes that the attach settings ask of a profile. -/
def initialEPSUpdate (cfg : InitialEPSConfig) : ProfileUpdate where
  id := cfg.profileID
  apn := some cfg.apn
  ipFamily := some cfg.ipFamily
  authentication := some cfg.authentication
  username := some cfg.username
  password := some cfg.password
  enabled := some true

/-- The profile that the attach settings ask for. -/
def initialEPSProfile (cfg : InitialEPSConfig) : ProfileConfig where
  apn := cfg.apn
  ipFamily := cfg.ipFamily
  authentication := cfg.authentication
  username := cfg.username
  password := cfg.password
  apnType := 0
  enabled := true

/-- The profile of the attach settings, updated or created, with whether it was created. -/
def prepareInitialEPSProfile (cfg : InitialEPSConfig) : Call (Int32 × Bool) :=
  if cfg.profileID ≠ 0 then
    (Call.wrap "setting initial EPS profile" (updateProfile a (initialEPSUpdate cfg))).bind fun _ =>
      ([], .ok (cfg.profileID, false))
  else
    (Call.wrap "creating initial EPS profile" (createProfile a (initialEPSProfile cfg))).bind fun profile =>
      ([], .ok (profile.id, true))

/-- The attach list with a profile in front. -/
def attachProfiles (profileID : Int32) (list : Option (List UInt16)) : List UInt16 :=
  let first := profileID.toUInt32.toUInt16
  first :: (list.getD []).filter fun current => current ≠ first

/-- Put a profile in front of the attach list, and delete it again if that fails and it was created for this. -/
def attachProfile (profileID : Int32) (created : Bool) (list : Option (List UInt16)) : Call Unit :=
  match wdsSetLTEAttachPDNList a (attachProfiles profileID list) with
  | (sent, .ok ()) => (sent, .ok ())
  | (sent, .error err) =>
    let setErr : ProfileError := .wrap "setting initial EPS profile list" err
    -- A profile that was made for this is deleted again.
    if created then
      match deleteProfile a profileID with
      | (more, .ok ()) => (sent ++ more, .error (.joinNil setErr))
      | (more, .error err) => (sent ++ more, .error (.join setErr err))
    else (sent, .error setErr)

/-- The profile ID that is checked against the range of the modem's indexes. -/
def checkedProfileID (cfg : InitialEPSConfig) (list : Option (List UInt16)) : Int32 :=
  match list with
  | some (first :: _) => if cfg.profileID = 0 then first.toUInt32.toInt32 else cfg.profileID
  | none | some [] => cfg.profileID

/-- `SetInitialEPSSettings` -/
def setInitialEPSSettings (cfg : InitialEPSConfig) : Call InitialEPSConfig :=
  (Call.wrap "reading initial EPS profile list" (wdsLTEAttachPDNList a.attachList)).bind fun list =>
    if checkedProfileID cfg list > 255 then
      Call.fail (.profileID "setting initial EPS settings: profile ID %d exceeds 255" (checkedProfileID cfg list))
    else
      (prepareInitialEPSProfile a cfg).bind fun (profileID, created) =>
        (attachProfile a profileID created list).bind fun _ => initialEPSSettings a

/-- The index that a connection names. -/
def startIndex (profileID : Int32) : Option UInt8 :=
  let index := profileID.toUInt32.toUInt8
  if index ≠ 0 then some index else none

/-- The loop over the data sessions of a connection, which ends at the first that fails. -/
def openSessions (profileID : Int32) : Nat → Nat → Call Unit
  | _, 0 => ([], .ok ())
  | opened, count + 1 =>
    match a.opens opened with
    | .notStarted => Call.fail .failed
    | .failed => ([.startNetwork (startIndex profileID)], .error .failed)
    | .opened =>
      Call.bind ([.startNetwork (startIndex profileID)], .ok ()) fun _ => openSessions profileID (opened + 1) count

/-- `ConnectPort`, of which the network link and the closing of sessions are not followed here. -/
def connectPort (profileID : Int32) (ipFamily : IPFamily) : Call Unit :=
  if profileID > 255 then Call.fail (.profileID "connecting data session: profile ID %d exceeds 255" profileID)
  else if a.link = false then Call.fail .failed
  else openSessions a profileID 0 (ipPreferences ipFamily).length

/-! The calls of the modem, which are the backend's behind some checks. -/

/-- `APNTypeAny` -/
def apnTypeAny : APNType := 0x3F

/-- An operation on a profile. -/
inductive Operation where
  | update (update : ProfileUpdate)
  | delete (id : Int32)
  | connect (profileID : Int32) (ipFamily : IPFamily)
  | setInitialEPS (cfg : InitialEPSConfig)

/-- An operation of the modem, with only what it sends and whether it returns an error. -/
def run (op : Operation) : Call Unit :=
  match op with
  | .update update =>
    if update.id < 0 then Call.fail (.profileID "updating profile: profile ID is negative" update.id)
    else if update.apnType.any (fun apnType => apnType &&& ~~~apnTypeAny ≠ 0) then
      Call.fail (.mask "updating profile: APN type %#x is invalid" (update.apnType.getD 0).toNat)
    else (updateProfile a update).bind fun _ => ([], .ok ())
  | .delete id =>
    if id < 0 then Call.fail (.profileID "deleting profile: profile ID is negative" id)
    else deleteProfile a id
  | .connect profileID ipFamily =>
    if profileID < 0 then Call.fail (.profileID "connecting modem: profile ID is negative" profileID)
    else if ipFamily &&& ~~~Modem.IPFamily.ipv4v6 ≠ 0 then
      Call.fail (.mask "connecting modem: IP family %#x is invalid" ipFamily.toNat)
    else connectPort a profileID ipFamily
  | .setInitialEPS cfg =>
    if cfg.profileID < 0 then
      Call.fail (.profileID "setting initial EPS settings: profile ID is negative" cfg.profileID)
    else if cfg.ipFamily &&& ~~~Modem.IPFamily.ipv4v6 ≠ 0 then
      Call.fail (.mask "setting initial EPS settings: IP family %#x is invalid" cfg.ipFamily.toNat)
    else (setInitialEPSSettings a cfg).bind fun _ => ([], .ok ())

end

end Wwan.Modem.Qmi.Profiles
