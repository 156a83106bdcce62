import Registrar.Config.Basic
import Registrar.Config.Environment
import Registrar.Toml.Document

/-! Loading the configuration in layers: usual values, the file, the environment; each layer is laid
over the one before. -/
namespace Registrar
set_option autoImplicit false

/-! ## Layers -/

mutual

/-- Lays a value over another: objects are joined member by member, anything else is replaced. -/
def Json.overlay : Json → Json → Json
  | base, .object upper =>
    match base with
    | .object lower => .object (overlayMembers lower upper)
    | _ => .object upper
  | _, upper => upper

def overlayMembers (lower : List (String × Json)) : List (String × Json) → List (String × Json)
  | [] => lower
  | (name, v) :: rest =>
    let joined := ((lower.find? (·.1 = name)).map (·.2)).elim v (Json.overlay · v)
    let present := lower.any (·.1 = name)
    overlayMembers
      (if present then lower.map fun m => if m.1 = name then (name, joined) else m
        else lower ++ [(name, v)])
      rest

end

def Config.sectionSizes : List (String × Nat) :=
  match Config.usual.toJson with
  | .object sections => sections.map fun (name, v) => (name, v.members.length)
  | _ => []

/-- A section written as a list may be longer than the section. -/
def Config.clipSections : Json → Json
  | .object sections =>
    .object (sections.map fun (name, v) =>
      match v, sectionSizes.find? (·.1 = name) with
      | .array items, some (_, size) => (name, .array (items.take size))
      | _, _ => (name, v))
  | v => v

/-! ## Filling in -/

/-- Replaces what was left empty or zero where that has no meaning of its own. -/
def Config.filledIn (c : Config) : Config :=
  { c with
    chain :=
      if Text.isAllBlank c.chain.rpcUrl then { c.chain with rpcUrl := defaultRpcUrl } else c.chain
    registry :=
      if c.registry.chainId = 0 then { c.registry with chainId := c.chain.chainId } else c.registry
    delegation :=
      if c.delegation.chainId = 0 then { c.delegation with chainId := c.chain.chainId }
      else c.delegation
    exclusions :=
      if c.exclusions.pollSecs = 0 then { c.exclusions with pollSecs := defaultExclusionPollSecs }
      else c.exclusions
    http :=
      if Text.isAllBlank c.http.listenAddress then
        { c.http with listenAddress := defaultListenAddress }
      else c.http
    runtime :=
      { maxBatchSize :=
          if c.runtime.maxBatchSize = 0 then defaultMaxBatchSize else c.runtime.maxBatchSize
        statusChunkSize :=
          if c.runtime.statusChunkSize = 0 then defaultStatusChunkSize
          else c.runtime.statusChunkSize } }

/-! ## Loading -/

def Config.load (file : Option String) (env : Environment) : Except Error Config :=
  let fault := Error.config "config extraction failed: malformed configuration"
  let fileLayer :=
    match file with
    | none => some []
    | some text => (Toml.parse? text).map fun v => [v]
  match fileLayer with
  | none => .error fault
  | some layers =>
    let environmentLayer := env.settings.foldl Json.overlay (.object [])
    let merged := (layers ++ [environmentLayer]).foldl Json.overlay Config.usual.toJson
    match Config.ofJson (clipSections merged) with
    | .ok c => .ok c.filledIn
    | .error _ => .error fault

/-! ## Logging -/

/-- The URL without what stands between its scheme and the first `@` behind that. -/
def redactUrl (url : String) : String :=
  match Text.cutAt? "://".toList url.toList with
  | none => url
  | some (scheme, rest) =>
    match Text.cutAt? ['@'] rest with
    | none => url
    | some (_, host) => String.ofList (scheme ++ "://<redacted>@".toList ++ host)

def Config.loadedLine (c : Config) : String :=
  "configuration loaded rpc_url=" ++ redactUrl c.chain.rpcUrl ++ " chain_id="
    ++ toString c.chain.chainId.toNat ++ " delegation_enabled="
    ++ (if c.delegation.enabled then "true" else "false") ++ " http_listen=" ++ c.http.listenAddress

end Registrar
