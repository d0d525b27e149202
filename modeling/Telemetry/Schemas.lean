/-!
Contract: the fixed names of the pipeline's vocabulary.

Owns:
- the schemas of events, entities and wrappers;
- the keys of a built event, and the event names;
- the version that a built event reports.

Does not own: which of them a given event uses.
-/

namespace Telemetry

/-- The version that every built event reports. -/
def trackerVersion : String := "pulse-rs-0.0.1"

namespace Schemas

/-- The array of context entities of a built event. -/
def contexts : String := "iglu:dev.pulse/contexts/jsonschema/1-0-1"

/-- The body of a self-describing event. -/
def unstructEvent : String := "iglu:dev.pulse/unstruct_event/jsonschema/1-0-0"

/-- A request body of several payloads. -/
def payloadData : String := "iglu:dev.pulse/payload_data/jsonschema/1-0-4"

def applicationForeground : String :=
  "iglu:dev.pulse/application_foreground/jsonschema/1-0-0"

def applicationBackground : String :=
  "iglu:dev.pulse/application_background/jsonschema/1-0-0"

def applicationInstall : String := "iglu:dev.pulse/application_install/jsonschema/1-0-0"

def screenView : String := "iglu:dev.pulse/screen_view/jsonschema/1-0-0"

/-- The application was opened through a deep link. -/
def deepLinkReceived : String := "iglu:dev.pulse/deep_link_received/jsonschema/1-0-0"

/-- The deep link that led to a screen. -/
def deepLink : String := "iglu:dev.pulse/deep_link/jsonschema/1-0-0"

def clientSession : String := "iglu:dev.pulse/client_session/jsonschema/1-0-2"

/-- Whether the application is visible. -/
def applicationLifecycle : String :=
  "iglu:dev.pulse/application_lifecycle/jsonschema/1-0-0"

/-- The legal basis for processing. -/
def gdpr : String := "iglu:dev.pulse/gdpr/jsonschema/1-0-0"

/-- The device and platform. -/
def mobileContext : String := "iglu:dev.pulse/mobile_context/jsonschema/1-0-2"

def all : List String :=
  [contexts, unstructEvent, payloadData, applicationForeground, applicationBackground,
    applicationInstall, screenView, deepLinkReceived, deepLink, clientSession,
    applicationLifecycle, gdpr, mobileContext]

end Schemas

namespace Keys

def event : String := "e"

def eventId : String := "eid"

/-- The instant at which the device created the event. -/
def deviceTimestamp : String := "dtm"

/-- The instant that the host assigned. -/
def trueTimestamp : String := "ttm"

/-- The instant at which the event was sent. -/
def sentTimestamp : String := "stm"

def trackerVersion : String := "tv"

def trackerNamespace : String := "tna"

def appId : String := "aid"

def platform : String := "p"

/-- The context array as plain text. -/
def context : String := "co"

/-- The context array, encoded. -/
def contextEncoded : String := "cx"

/-- The body of a self-describing event as plain text. -/
def unstructured : String := "ue_pr"

/-- The body of a self-describing event, encoded. -/
def unstructuredEncoded : String := "ue_px"

def category : String := "se_ca"

def action : String := "se_ac"

def label : String := "se_la"

def property : String := "se_pr"

def value : String := "se_va"

def pageUrl : String := "url"

def pageTitle : String := "page"

def pageReferrer : String := "refr"

def userId : String := "uid"

def resolution : String := "res"

def viewport : String := "vp"

def colorDepth : String := "cd"

def language : String := "lang"

def timezone : String := "tz"

def ipAddress : String := "ip"

def userAgent : String := "ua"

def domainUserId : String := "duid"

def networkUserId : String := "tnuid"

/-- All keys. -/
def all : List String :=
  [event, eventId, deviceTimestamp, trueTimestamp, sentTimestamp, trackerVersion,
    trackerNamespace, appId, platform, context, contextEncoded, unstructured,
    unstructuredEncoded, category, action, label, property, value, pageUrl, pageTitle,
    pageReferrer, userId, resolution, viewport, colorDepth, language, timezone, ipAddress,
    userAgent, domainUserId, networkUserId]

end Keys

namespace EventNames

def structured : String := "se"

def pageView : String := "pv"

def selfDescribing : String := "ue"

/-- All event names. -/
def all : List String := [structured, pageView, selfDescribing]

end EventNames

end Telemetry
