import TopicFeed.Json.Value
import TopicFeed.Settings.Basic
import TopicFeed.Toml.Value
/-! Settings from named values. Both formats in which settings are written are brought down to the
same few kinds of values; a value of the wrong kind, or a number out of range, refuses all. -/
namespace TopicFeed
namespace Settings

/-- A value of a setting. -/
inductive Value where
  | text (value : String)
  | bool (value : Bool)
  | integer (value : Int)
  | null
  /-- A name written as the only key of an object that holds nothing. -/
  | tag (name : String)
  | other

namespace Value

def text? : Value → Option String
  | .text value => some value
  | _ => none

def bool? : Value → Option Bool
  | .bool value => some value
  | _ => none

def word? : Value → Option UInt64
  | .integer value =>
    if 0 ≤ value ∧ value.toNat < UInt64.size then some (.ofNat value.toNat) else none
  | _ => none

def signed? : Value → Option Int64
  | .integer value =>
    if Int64.minValue.toInt ≤ value ∧ value ≤ Int64.maxValue.toInt then some (.ofInt value)
    else none
  | _ => none

/-- One of some names, plain or as a tag. -/
def name? {α : Type} (ofName? : String → Option α) : Value → Option α
  | .text name => ofName? name
  | .tag name => ofName? name
  | _ => none

def optional? : Value → Option (Option String)
  | .text value => some (some value)
  | .null => some none
  | _ => none

def ofJson : Json → Value
  | .text value => .text value
  | .bool value => .bool value
  | .integer value => .integer value
  | .null => .null
  | .object [(some name, .null)] => .tag name
  | _ => .other

def ofToml : Toml → Value
  | .text value => .text value
  | .bool value => .bool value
  | .integer value => .integer value
  | .table _ [(name, .table _ [])] => .tag name
  | .table _ [(name, .array [])] => .tag name
  | _ => .other

end Value

/-- The names of the settings, in order. -/
def names : List String :=
  ["subscription_name", "subscription_type", "subscription_mode", "message_queue_capacity",
    "partition_discovery_interval_ms", "enable_auto_acknowledge_message",
    "enable_schema_evolution", "auto_commit_cursor_interval_ms", "transaction_timeout_ms",
    "default_fetch_time", "max_fetch_time", "max_fetch_records", "verify_initial_offsets",
    "allow_key_shared_out_of_order_delivery", "key_shared_mode"]

def ofValues? (find : String → Option Value) : Option Settings := do
  let read {α : Type} (name : String) (default : α) (as? : Value → Option α) : Option α :=
    match find name with
    | none => some default
    | some value => as? value
  let base : Settings := { subscriptionName := ← (← find "subscription_name").text? }
  return {
    subscriptionName := base.subscriptionName
    subscriptionType :=
      ← read "subscription_type" base.subscriptionType (·.name? SubscriptionType.ofName?)
    subscriptionMode :=
      ← read "subscription_mode" base.subscriptionMode (·.name? SubscriptionMode.ofName?)
    messageQueueCapacity := ← read "message_queue_capacity" base.messageQueueCapacity (·.word?)
    partitionDiscoveryInterval :=
      ← read "partition_discovery_interval_ms" base.partitionDiscoveryInterval (·.signed?)
    autoAcknowledge := ← read "enable_auto_acknowledge_message" base.autoAcknowledge (·.bool?)
    schemaEvolution := ← read "enable_schema_evolution" base.schemaEvolution (·.bool?)
    autoCommitCursorInterval :=
      ← read "auto_commit_cursor_interval_ms" base.autoCommitCursorInterval (·.word?)
    transactionTimeout := ← read "transaction_timeout_ms" base.transactionTimeout (·.word?)
    defaultFetchTime := ← read "default_fetch_time" base.defaultFetchTime (·.text?)
    maxFetchTime := ← read "max_fetch_time" base.maxFetchTime (·.text?)
    maxFetchRecords := ← read "max_fetch_records" base.maxFetchRecords (·.word?)
    verifyInitialOffsets :=
      ← read "verify_initial_offsets" base.verifyInitialOffsets (·.name? StartCheck.ofName?)
    outOfOrderDelivery :=
      ← read "allow_key_shared_out_of_order_delivery" base.outOfOrderDelivery (·.bool?)
    keySharedMode := ← read "key_shared_mode" base.keySharedMode (·.optional?)
  }

/-- Settings from an object, or from an array of the values in order. Names that are no settings
are passed over, a setting may be given once. -/
def ofJson? : Json → Option Settings
  | .object members =>
    let known := (members.filterMap (·.1)).filter names.contains
    if members.any (·.1.isNone) || known.eraseDups.length != known.length then none
    else ofValues? fun name => (members.lookup (some name)).map .ofJson
  | .array items =>
    if names.length < items.length then none
    else ofValues? fun name => ((names.zip items).lookup name).map .ofJson
  | _ => none

def ofToml? (entries : List (String × Toml)) : Option Settings :=
  ofValues? fun name => (entries.lookup name).map .ofToml

end Settings
end TopicFeed
