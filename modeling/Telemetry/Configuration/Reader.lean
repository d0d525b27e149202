import Telemetry.Configuration
import Telemetry.Toml.Document

/-!
Contract: configurations from TOML text.

Owns:
- the names, types and ranges of the values of each section;
- sections that are arrays of their values, in the order of their names;
- the outcome of reading a file and the two causes of failure.

Does not own: the reading of the file. Unknown names are passed over.
-/

namespace Telemetry

/-- Why there is no configuration: the file cannot be read, or its text is none. -/
inductive ConfigurationError where
  | unreadable
  | malformed
deriving DecidableEq, Repr

inductive FileContents where
  | missing
  | unreadable
  | read (text : String)
deriving DecidableEq, Repr

/-- The contents of a file with some bytes, which must be UTF-8. -/
def FileContents.ofBytes (bytes : ByteArray) : FileContents :=
  match String.fromUTF8? bytes with
  | some text => .read text
  | none => .unreadable

namespace Configuration

/-- The value of a section at a position or under a name. -/
abbrev Section := (position : Nat) → (name : String) → Option Toml

/-- The values of a section: under their names in a table, at their positions in
an array. A date has neither. -/
def sectionOf? : Toml → Option Section
  | .moment _ => some fun _ _ => none
  | .table _ entries => some fun _ name => Entries.get? entries name
  | value => value.asArray?.map fun items position _ => items[position]?

/-- Reads a value that has a usual one. -/
def valueOr
    {α : Type}
    (values : Section)
    (position : Nat)
    (name : String)
    (read : Toml → Option α)
    (usual : α) :
    Option α :=
  match values position name with
  | none => some usual
  | some value => read value

def text? : Toml → Option String
  | .text value => some value
  | _ => none

def flag? : Toml → Option Bool
  | .boolean value => some value
  | _ => none

/-- A whole number from zero to a limit. -/
def natural? (limit : Nat) : Toml → Option Nat
  | .integer value =>
    if 0 ≤ value ∧ value ≤ limit then some value.toNat else none
  | _ => none

/-- The greatest number of 64 bits and of 32 bits. -/
def limit64 : Nat := 0xFFFFFFFFFFFFFFFF

def limit32 : Nat := 0xFFFFFFFF

/-- An array or a table that holds nothing. -/
def isEmpty : Toml → Bool
  | .array items => items.isEmpty
  | .table _ entries => entries.isEmpty
  | _ => false

/-- The name of a choice: a text, or the one key of a table whose value is empty. -/
def choice? : Toml → Option String
  | .text value => some value
  | .table _ [(name, value)] => if isEmpty value then some name else none
  | _ => none

def method? (value : Toml) : Option DeliveryMethod :=
  match choice? value with
  | some "get" => some .get
  | some "post" => some .post
  | _ => none

def grouping? (value : Toml) : Option Grouping :=
  match choice? value with
  | some "single" => some .single
  | some "small_group" => some .smallGroup
  | some "large_group" => some .largeGroup
  | _ => none

/-- A table of truth values. -/
def flags? (value : Toml) : Option (Entries String Bool) :=
  value.asTable?.bind fun entries =>
    entries.mapM fun entry => (flag? entry.2).map fun flag => (entry.1, flag)

def tracker? (values : Section) : Option TrackerSettings := do
  let usual : TrackerSettings := {}
  some {
    scope := ← valueOr values 0 "namespace" text? usual.scope
    appId := ← valueOr values 1 "app_id" text? usual.appId
    platform := ← valueOr values 2 "platform" text? usual.platform
    base64 := ← valueOr values 3 "base64_encoding" flag? usual.base64
    sessionContext := ← valueOr values 4 "session_context" flag? usual.sessionContext
    platformContext := ← valueOr values 5 "platform_context" flag? usual.platformContext
    lifecycle := ← valueOr values 6 "lifecycle_autotracking" flag? usual.lifecycle
    deepLinks := ← valueOr values 7 "deep_link_context" flag? usual.deepLinks
    install := ← valueOr values 8 "install_autotracking" flag? usual.install
    anonymise := ← valueOr values 9 "user_anonymisation" flag? usual.anonymise }

def session? (values : Section) : Option SessionTimeouts := do
  let usual : SessionTimeouts := {}
  some {
    foreground :=
      ← valueOr values 0 "foreground_timeout_secs" (natural? limit64) usual.foreground
    background :=
      ← valueOr values 1 "background_timeout_secs" (natural? limit64) usual.background }

def delivery? (values : Section) : Option DeliverySection := do
  let usual : DeliverySection := {}
  let number (position : Nat) (name : String) (usual : Nat) : Option Nat :=
    valueOr values position name (natural? limit64) usual
  some {
    endpoint := ← valueOr values 0 "endpoint" text? usual.endpoint
    method := ← valueOr values 1 "method" method? usual.method
    grouping := ← valueOr values 2 "buffer_option" grouping? usual.grouping
    emitRange := ← number 3 "emit_range" usual.emitRange
    byteLimitGet := ← number 4 "byte_limit_get" usual.byteLimitGet
    byteLimitPost := ← number 5 "byte_limit_post" usual.byteLimitPost
    workers := ← number 6 "thread_pool_size" usual.workers
    retry := ← valueOr values 7 "retry_failed_requests" flag? usual.retry
    retryCodes :=
      ← valueOr values 8 "custom_retry_for_status_codes" flags? usual.retryCodes
    interval := ← number 9 "emit_interval_ms" usual.interval
    requestTimeout := ← number 10 "request_timeout_secs" usual.requestTimeout }

def storage? (values : Section) : Option StorageSection := do
  let usual : StorageSection := {}
  let limit (value : Toml) : Option (Option Nat) := (natural? limit64 value).map some
  some {
    path := ← valueOr values 0 "path" text? usual.path
    maxRows := ← valueOr values 1 "max_rows" limit usual.maxRows
    maxAge := ← valueOr values 2 "max_age_secs" limit usual.maxAge
    busyTimeout := ← valueOr values 3 "busy_timeout_ms" (natural? limit64) usual.busyTimeout
    connections := ← valueOr values 4 "pool_max_size" (natural? limit32) usual.connections }

def logging? (values : Section) : Option LoggingSection := do
  let usual : LoggingSection := {}
  some {
    level := ← valueOr values 0 "level" text? usual.level
    json := ← valueOr values 1 "json" flag? usual.json }

def ofTable? (entries : Toml.Table) : Option Configuration := do
  let read {α : Type} (name : String) (section? : Section → Option α) (usual : α) : Option α :=
    match entries.get? name with
    | none => some usual
    | some value => (sectionOf? value).bind section?
  some {
    tracker := ← read "tracker" tracker? {}
    session := ← read "session" session? {}
    delivery := ← read "emitter" delivery? {}
    storage := ← read "store" storage? {}
    logging := ← read "logging" logging? {} }

def parse? (text : String) : Option Configuration := (Toml.parse? text).bind ofTable?

/-- The configuration of a file. A missing file is like an empty one. -/
def ofFile : FileContents → Except ConfigurationError Configuration
  | .missing => .ok {}
  | .unreadable => .error .unreadable
  | .read text =>
    match parse? text with
    | some configuration => .ok configuration
    | none => .error .malformed

/-- The configuration of a file, if one is named, and the environment. -/
def load (file : Option FileContents) (environment : String → Option String) :
    Except ConfigurationError Configuration :=
  (ofFile (file.getD .missing)).map fun configuration => configuration.withVariables environment

end Configuration

end Telemetry
