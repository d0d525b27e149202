import Telemetry.Configuration
import Telemetry.Form.Delivery
import Telemetry.Json.Members
import Telemetry.Tracker.Gdpr
import Telemetry.Tracker.Subject

/-!
Contract: the JSON forms of a tracker's set-up, and of what is known of its user.

Owns: the set-ups of trackers and sessions, subjects, bases for processing, and
configurations.

Does not own: the configuration file, which names the same settings differently.
-/

namespace Telemetry

def TrackerSettings.ofForm (form : Json) : TrackerSettings :=
  let usual : TrackerSettings := {}
  { scope := (form.textAt? "namespace").getD usual.scope
    appId := (form.textAt? "app_id").getD usual.appId
    platform := (form.textAt? "platform").getD usual.platform
    base64 := (form.boolAt? "base64").getD usual.base64
    sessionContext := (form.boolAt? "session_context").getD usual.sessionContext
    platformContext := (form.boolAt? "platform_context").getD usual.platformContext
    lifecycle := (form.boolAt? "lifecycle").getD usual.lifecycle
    deepLinks := (form.boolAt? "deep_link").getD usual.deepLinks
    install := (form.boolAt? "install").getD usual.install
    anonymise := (form.boolAt? "anonymise").getD usual.anonymise }

def TrackerSettings.toForm (settings : TrackerSettings) : Json :=
  .ofPairs [
    ("namespace", .string settings.scope),
    ("app_id", .string settings.appId),
    ("platform", .string settings.platform),
    ("base64", .bool settings.base64),
    ("session_context", .bool settings.sessionContext),
    ("platform_context", .bool settings.platformContext),
    ("lifecycle", .bool settings.lifecycle),
    ("deep_link", .bool settings.deepLinks),
    ("install", .bool settings.install),
    ("anonymise", .bool settings.anonymise)]

def TrackerSettings.nameForm (settings : TrackerSettings) : Json :=
  .ofPairs [("namespace", .string settings.scope), ("app_id", .string settings.appId)]

/-- A span of a form, in seconds or else in milliseconds. -/
def spanOf? (form : Json) (seconds millis : String) : Option Nat :=
  ((form.naturalAt? seconds).map (· * 1000)).or (form.naturalAt? millis)

/-- The set-up of a session. -/
def SessionConfig.ofForm (form : Json) : SessionConfig :=
  let usual : SessionConfig := {}
  { foregroundTimeout :=
      (spanOf? form "foreground_secs" "foreground_ms").getD usual.foregroundTimeout
    backgroundTimeout :=
      (spanOf? form "background_secs" "background_ms").getD usual.backgroundTimeout
    storageMechanism := (form.textAt? "storage_mechanism").getD usual.storageMechanism }

def SessionConfig.toForm (config : SessionConfig) : Json :=
  .ofPairs [
    ("foreground_secs", .integer (config.foregroundTimeout / 1000)),
    ("background_secs", .integer (config.backgroundTimeout / 1000)),
    ("storage_mechanism", .string config.storageMechanism)]

/-- A width and a height in a list. -/
def Dimensions.at? (form : Json) (key : String) : Option Dimensions :=
  match (form.itemsAt key).filterMap Json.asNatural? with
  | [width, height] => some ⟨width, height⟩
  | _ => none

def Subject.ofForm (form : Json) : Subject where
  userId := form.textAt? "user_id"
  networkUserId := form.textAt? "network_user_id"
  domainUserId := form.textAt? "domain_user_id"
  screenResolution := Dimensions.at? form "screen_resolution"
  viewport := Dimensions.at? form "viewport"
  colorDepth := form.naturalAt? "color_depth"
  language := form.textAt? "language"
  timezone := form.textAt? "timezone"
  ipAddress := form.textAt? "ip_address"
  userAgent := form.textAt? "user_agent"

/-- The basis of a form: the document's parts are listed, or given one by one. -/
def GdprContext.ofForm (form : Json) : GdprContext :=
  let listed (place : Nat) : Option String := ((form.itemsAt "document")[place]?).bind Json.asString?
  { basis := (ProcessingBasis.ofText? (form.textAt "basis")).getD .consent
    documentId := (form.textAt? "id").or (listed 0)
    documentVersion := (form.textAt? "version").or (listed 1)
    documentDescription := (form.textAt? "description").or (listed 2) }

/-- The form of a configuration, with the set-ups that follow from it. -/
def Configuration.toForm (configuration : Configuration) : Json :=
  let delivery := configuration.delivery
  let storage := configuration.storage
  .ofPairs [
    ("tracker", configuration.tracker.toForm),
    ("session", configuration.sessionConfig.toForm),
    ("emitter", configuration.deliveryConfig.toForm),
    ("transport", .ofPairs [
      ("endpoint", .string delivery.endpoint),
      ("method", .string (if delivery.method = .get then "Get" else "Post")),
      ("request_timeout_secs", .integer delivery.requestTimeout)]),
    ("store", .ofPairs [
      ("path", .string storage.path),
      ("max_rows", Json.ofOption Json.ofNat storage.maxRows),
      ("max_age_secs", Json.ofOption Json.ofNat storage.maxAge),
      ("busy_timeout_ms", .integer storage.busyTimeout),
      ("pool_max_size", .integer storage.connections)]),
    ("logging", .ofPairs [
      ("level", .string configuration.logging.level),
      ("json", .bool configuration.logging.json)])]

end Telemetry
