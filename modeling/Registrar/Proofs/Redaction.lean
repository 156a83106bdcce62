import Registrar.Config.Load
import Registrar.Net.Url
import Registrar.Proofs.Cutting

/-! What the line about a loaded configuration tells of a user in the URL of the node. The user
reaches to the last `@` of the authority, the redaction only to the first one: what a user has behind
an `@` of its own is told, and nothing else of it. -/
namespace Registrar
set_option autoImplicit false

variable {scheme user other host : List Char}

/-- The URL of a host with a user before it. -/
def userUrl (scheme user host : List Char) : String :=
  String.ofList (scheme ++ ':' :: '/' :: '/' :: (user ++ '@' :: host))

/-- What stands behind the first `@` of a user, up to the `@` that ends the user; nothing if the user
has none of its own. -/
def exposed (user : List Char) : List Char :=
  match Text.cutAt? ['@'] user with
  | none => []
  | some (_, rest) => rest ++ ['@']

theorem exposed_eq_nil_iff : exposed user = [] ↔ '@' ∉ user := by
  rw [← Text.cutAt?_eq_none_iff, exposed]
  cases Text.cutAt? ['@'] user <;> simp

/-! ## Reading -/

/-- A reader of URLs takes all that stands before the host for the user. -/
theorem splitUser_append (bare : '@' ∉ host) :
    Net.Url.splitUser (user ++ '@' :: host) = (some user, host) := by
  have behind : ((user ++ '@' :: host).reverse.takeWhile (· ≠ '@')).reverse = host := by
    rw [List.reverse_append, List.reverse_cons, List.append_assoc, List.takeWhile_append_of_pos]
    · simp
    · intro c hc
      simp only [List.mem_reverse] at hc
      simp only [ne_eq, decide_eq_true_eq]
      rintro rfl
      exact bare hc
  have shorter : host.length ≠ (user ++ '@' :: host).length := by
    rw [List.length_append, List.length_cons]
    omega
  have front : (user ++ '@' :: host).take ((user ++ '@' :: host).length - host.length) =
      user ++ ['@'] := by
    have parts : user ++ '@' :: host = (user ++ ['@']) ++ host := List.append_cons ..
    rw [parts, List.length_append, Nat.add_sub_cancel, List.take_left]
  simp only [Net.Url.splitUser, behind, if_neg shorter, front, List.dropLast_concat]

/-- Without a slash, question mark, hash or backslash in it, whatever stands before the host is split
off the authority as the user. -/
theorem splitUser_authority (bare : '@' ∉ host) (plain : ∀ c ∈ user, c ∉ ['/', '?', '#', '\\'])
    (known : Bool) :
    Net.Url.splitUser ((user ++ '@' :: host).takeWhile fun c => !Net.Url.endsAuthority known c) =
      (some user, host.takeWhile fun c => !Net.Url.endsAuthority known c) := by
  have inside : ∀ c ∈ user ++ ['@'], (!Net.Url.endsAuthority known c) = true := by
    intro c hc
    have none : c ∉ ['/', '?', '#', '\\'] := by
      rcases List.mem_append.1 hc with hc | hc
      · exact plain c hc
      · rw [List.mem_singleton.1 hc]
        decide
    simp only [List.mem_cons, List.not_mem_nil, or_false, not_or] at none
    simp [Net.Url.endsAuthority, none]
  rw [List.append_cons, List.takeWhile_append_of_pos inside, List.append_assoc]
  apply splitUser_append
  intro at_
  exact bare (List.takeWhile_subset _ at_)

/-! ## Redacting -/

theorem redactUrl_userUrl (named : ':' ∉ scheme) :
    redactUrl (userUrl scheme user host) =
      String.ofList (scheme ++ "://<redacted>@".toList ++ (exposed user ++ host)) := by
  have front : Text.cutAt? "://".toList (userUrl scheme user host).toList =
      some (scheme, user ++ '@' :: host) := by
    have text : (userUrl scheme user host).toList =
        scheme ++ ':' :: (['/', '/'] ++ (user ++ '@' :: host)) := String.toList_ofList
    rw [text]
    exact Text.cutAt?_pattern ['/', '/'] named
  have back : ∃ hidden, Text.cutAt? ['@'] (user ++ '@' :: host) =
      some (hidden, exposed user ++ host) := by
    unfold exposed
    cases own : Text.cutAt? ['@'] user with
    | none => exact ⟨user, Text.cutAt?_pattern [] (Text.cutAt?_eq_none_iff.1 own)⟩
    | some parts =>
      obtain ⟨hidden, rest⟩ := parts
      obtain ⟨rfl, absent⟩ := Text.cutAt?_eq_some_iff.1 own
      refine ⟨hidden, Text.cutAt?_eq_some_iff.2 ⟨?_, absent⟩⟩
      simp
  obtain ⟨hidden, back⟩ := back
  rw [redactUrl, front]
  dsimp only
  rw [back]

theorem redactUrl_eq_iff (named : ':' ∉ scheme) :
    redactUrl (userUrl scheme user host) = redactUrl (userUrl scheme other host) ↔
      exposed user = exposed other := by
  rw [redactUrl_userUrl named, redactUrl_userUrl named, String.ofList_inj, List.append_right_inj,
    List.append_left_inj]

/-! ## The line -/

namespace Config

def withNode (c : Config) (url : String) : Config :=
  { c with chain := { c.chain with rpcUrl := url } }

theorem loadedLine_withNode_eq_iff {c : Config} {url url' : String} :
    (c.withNode url).loadedLine = (c.withNode url').loadedLine ↔ redactUrl url = redactUrl url' := by
  unfold loadedLine withNode
  rw [String.append_left_inj, String.append_left_inj, String.append_left_inj,
    String.append_left_inj, String.append_left_inj, String.append_left_inj,
    String.append_right_inj]

/-- A reader takes everything up to the last `@` before the host for the user. The line tells, of that
user, what stands behind its own first `@`: two users give one line exactly when they agree on that,
and nothing is told of a user without an `@` in it. -/
theorem loadedLine_exposes (c : Config) (named : ':' ∉ scheme) (bare : '@' ∉ host)
    (plain : ∀ ch ∈ user, ch ∉ ['/', '?', '#', '\\']) (known : Bool) :
    Net.Url.splitUser ((user ++ '@' :: host).takeWhile fun ch => !Net.Url.endsAuthority known ch) =
        (some user, host.takeWhile fun ch => !Net.Url.endsAuthority known ch) ∧
      redactUrl (userUrl scheme user host) =
        String.ofList (scheme ++ "://<redacted>@".toList ++ (exposed user ++ host)) ∧
      (redactUrl (userUrl scheme user host) = redactUrl (userUrl scheme other host) ↔
        exposed user = exposed other) ∧
      ((c.withNode (userUrl scheme user host)).loadedLine =
          (c.withNode (userUrl scheme other host)).loadedLine ↔
        exposed user = exposed other) ∧
      (exposed user = [] ↔ '@' ∉ user) :=
  ⟨splitUser_authority bare plain known, redactUrl_userUrl named, redactUrl_eq_iff named,
    loadedLine_withNode_eq_iff.trans (redactUrl_eq_iff named), exposed_eq_nil_iff⟩

/-- A password without an `@` stays out of the line, whatever it is. -/
theorem loadedLine_exposes_nothing :
    ':' ∉ "http".toList ∧ '@' ∉ "node:8545".toList ∧
      (∀ ch ∈ "user:pass".toList, ch ∉ ['/', '?', '#', '\\']) ∧
      (usual.withNode (userUrl "http".toList "user:pass".toList "node:8545".toList)).loadedLine =
        (usual.withNode (userUrl "http".toList "admin".toList "node:8545".toList)).loadedLine := by
  have named : ':' ∉ "http".toList := by decide
  have bare : '@' ∉ "node:8545".toList := by decide
  have plain : ∀ ch ∈ "user:pass".toList, ch ∉ ['/', '?', '#', '\\'] := by simp
  obtain ⟨-, -, -, line, -⟩ := loadedLine_exposes usual named bare plain true
  exact ⟨named, bare, plain, line.2 (by decide)⟩

/-- The end of a password with an `@` in it is told: the URL is a sound one, the reader takes the whole
password for the user's, and the line has the end of it. -/
theorem loadedLine_exposes_password :
    Net.Url.isAbsolute "http://user:p@ss@[::1]:8545" = true ∧
      Net.Url.splitUser "user:p@ss@[::1]:8545".toList =
        (some "user:p@ss".toList, "[::1]:8545".toList) ∧
      redactUrl "http://user:p@ss@[::1]:8545" = "http://<redacted>@ss@[::1]:8545" ∧
      redactUrl "http://user:pass@[::1]:8545" = "http://<redacted>@[::1]:8545" ∧
      (usual.withNode "http://user:p@ss@[::1]:8545").loadedLine ≠
        (usual.withNode "http://user:pass@[::1]:8545").loadedLine := by
  have exposing : redactUrl "http://user:p@ss@[::1]:8545" = "http://<redacted>@ss@[::1]:8545" := by
    decide
  have hidden : redactUrl "http://user:pass@[::1]:8545" = "http://<redacted>@[::1]:8545" := by
    decide
  refine ⟨by decide, by decide, exposing, hidden, ?_⟩
  rw [ne_eq, loadedLine_withNode_eq_iff, exposing, hidden]
  decide

end Config

end Registrar
