import Tenancy.Progress.Json

/-!
# Settings

How long a resolved account is trusted, how many are kept, whether concurrent requests share one
lookup, and the columns of the stages. Settings are a document in which every field may be missing.
-/

namespace Tenancy

open Json

/-- How accounts are resolved. -/
structure ResolverConfig where
  /-- How long the outcome of a lookup is trusted. -/
  ttlSecs : UInt64
  /-- How many entries an index keeps; all of them if this is not set. -/
  maxEntries : Option UInt64
  /-- Concurrent misses for one key share one lookup. -/
  coalesce : Bool
  /-- How long a request waits for the lookup of another one. -/
  joinTimeoutMs : UInt64
  deriving DecidableEq

namespace ResolverConfig

/-- Ten minutes of trust, no limit, and shared lookups that are awaited for five seconds. -/
def standard : ResolverConfig :=
  ⟨600, none, true, 5000⟩

instance : Inhabited ResolverConfig := ⟨standard⟩

def ttl (c : ResolverConfig) : Duration :=
  .ofSecs c.ttlSecs.toNat

/-- How long a request waits for the lookup of another one. -/
def joinTimeout (c : ResolverConfig) : Duration :=
  .ofMillis c.joinTimeoutMs.toNat

/-- Refuses no trust at all and room for no entry. -/
def validate (c : ResolverConfig) : Except ConfigFault Unit :=
  if c.ttlSecs = 0 then .error .noTtl
  else if c.maxEntries = some 0 then .error .noEntries
  else .ok ()

def limitToJson : Option UInt64 → Value
  | none => .null
  | some n => .number (.natural n)

def toJson (c : ResolverConfig) : Value :=
  .object [("ttl_secs", .number (.natural c.ttlSecs)), ("max_entries", limitToJson c.maxEntries),
    ("coalesce", .flag c.coalesce), ("join_timeout_ms", .number (.natural c.joinTimeoutMs))]

def reader : Reader ResolverConfig :=
  Reader.record "ResolverConfig"
    [Reader.field "ttl_secs" false Reader.uint64 fun c ttlSecs => { c with ttlSecs },
      Reader.field "max_entries" false (Reader.option Reader.size)
        fun c maxEntries => { c with maxEntries },
      Reader.field "coalesce" false Reader.flag fun c coalesce => { c with coalesce },
      Reader.field "join_timeout_ms" false Reader.uint64
        fun c joinTimeoutMs => { c with joinTimeoutMs }]
    standard

end ResolverConfig

/-- The settings of the program. -/
structure Settings where
  resolver : ResolverConfig
  progress : ProgressSchema
  deriving DecidableEq

namespace Settings

def standard : Settings :=
  ⟨.standard, .current⟩

instance : Inhabited Settings := ⟨standard⟩

def validate (s : Settings) : Except ConfigFault Unit := do
  s.resolver.validate
  s.progress.validate

def toJson (s : Settings) : Value :=
  .object [("resolver", s.resolver.toJson), ("progress", s.progress.toJson)]

/-- Reads settings, which may be refused later. -/
def reader : Reader Settings :=
  Reader.record "Settings"
    [Reader.field "resolver" false ResolverConfig.reader fun s resolver => { s with resolver },
      Reader.field "progress" false ProgressSchema.reader fun s progress => { s with progress }]
    standard

/-- The settings of a document, if they are valid. -/
def ofText (text : String) : Except Error Settings := do
  let s ← (reader.document (Text.bytesOf text)).mapError .json
  s.validate.mapError .config
  return s

/-- The settings of the content of a file, which must be text; `none` stands for a file that cannot
be read. -/
def ofFile (content : Option (List UInt8)) : Except Error Settings :=
  match content.bind Text.ofUtf8? with
  | some text => ofText text
  | none => .error .io

end Settings

end Tenancy
