import EntangledClient.FilePath
import Mathlib.Data.List.Induction

/-!
# The command line

The arguments are read one after the other: `--store` takes the argument after it, whatever that
is, and what is no option is read by its position.  This says what a list of arguments means
without the loop.
-/

namespace EntangledClient

/-- The strings of the platform, as arguments and as paths. -/
structure OsStrings where
  OsString : Type
  toStringLossy : OsString → String
  toPath : OsString → FilePath
  textPath : String → FilePath

/-- Parsed command-line options. -/
structure Cli where
  manifest : FilePath
  onion : String
  content : Option FilePath
  storeDir : FilePath
  encrypted : Bool
  deriving DecidableEq

def usage : String :=
  "usage: entangled-client-gui [--store <dir>] [--store-encrypted] " ++
    "<manifest.json> <onion-address> [content.json]"

/-- The data directory of the user, if the platform has one. -/
def defaultStoreDir (dataDir : Option FilePath) : FilePath :=
  match dataDir with
  | some dir => dir.join "store"
  | none => ⟨[.normal ".entangled-client-store"]⟩

/-- What the loop over the arguments collects. -/
structure Scanned where
  storeDir : Option FilePath
  encrypted : Bool
  positional : List String

section Parse

variable (os : OsStrings)

def scanArgs : Scanned → List os.OsString → Except String Scanned
  | scanned, [] => .ok scanned
  | scanned, arg :: args =>
      if os.toStringLossy arg = "--store" then
        match args with
        | [] => .error "--store needs a directory"
        | dir :: args => scanArgs { scanned with storeDir := some (os.toPath dir) } args
      else if os.toStringLossy arg = "--store-encrypted" then
        scanArgs { scanned with encrypted := true } args
      else
        scanArgs { scanned with
          positional := scanned.positional ++ [os.toStringLossy arg] } args

/-- `parse_cli`; the first argument names the program. -/
def parseCli (dataDir : Option FilePath) (args : List os.OsString) : Except String Cli := do
  let scanned ← scanArgs os ⟨none, false, []⟩ (args.drop 1)
  let manifest ← (scanned.positional[0]?.map os.textPath).elim (.error usage) .ok
  let onion ← scanned.positional[1]?.elim (.error "missing <onion-address>") .ok
  return {
    manifest
    onion
    content := scanned.positional[2]?.map os.textPath
    storeDir := scanned.storeDir.getD (defaultStoreDir dataDir)
    encrypted := scanned.encrypted }

/-! ### What arguments mean -/

/-- An option, with its directory, or a text that is read by its position. -/
inductive ArgToken
  | store (flag dir : os.OsString) (isFlag : os.toStringLossy flag = "--store")
  | storeEncrypted (flag : os.OsString) (isFlag : os.toStringLossy flag = "--store-encrypted")
  | positional (arg : os.OsString) (notStore : os.toStringLossy arg ≠ "--store")
      (notEncrypted : os.toStringLossy arg ≠ "--store-encrypted")

namespace ArgToken

variable {os}

def args : ArgToken os → List os.OsString
  | store flag dir _ => [flag, dir]
  | storeEncrypted flag _ => [flag]
  | positional arg _ _ => [arg]

def storeDir : ArgToken os → Option FilePath
  | store _ dir _ => some (os.toPath dir)
  | storeEncrypted _ _ | positional _ _ _ => none

def isEncrypted : ArgToken os → Bool
  | storeEncrypted _ _ => true
  | store _ _ _ | positional _ _ _ => false

def text : ArgToken os → Option String
  | positional arg _ _ => some (os.toStringLossy arg)
  | store _ _ _ | storeEncrypted _ _ => none

end ArgToken

/-- What the tokens say all together: the last directory counts. -/
def Scanned.ofTokens (tokens : List (ArgToken os)) : Scanned where
  storeDir := (tokens.filterMap ArgToken.storeDir).getLast?
  encrypted := tokens.any ArgToken.isEncrypted
  positional := tokens.filterMap ArgToken.text

/-- What a list of arguments means. -/
inductive Means (dataDir : Option FilePath) : List os.OsString → Except String Cli → Prop
  | accepted (tokens : List (ArgToken os)) {manifest onion : String} {others : List String}
      (positional : tokens.filterMap ArgToken.text = manifest :: onion :: others) :
      Means dataDir (tokens.flatMap ArgToken.args) (.ok {
        manifest := os.textPath manifest
        onion
        content := others.head?.map os.textPath
        storeDir := (tokens.filterMap ArgToken.storeDir).getLast?.getD (defaultStoreDir dataDir)
        encrypted := tokens.any ArgToken.isEncrypted })
  | noManifest (tokens : List (ArgToken os))
      (positional : tokens.filterMap ArgToken.text = []) :
      Means dataDir (tokens.flatMap ArgToken.args) (.error usage)
  | noOnion (tokens : List (ArgToken os)) {manifest : String}
      (positional : tokens.filterMap ArgToken.text = [manifest]) :
      Means dataDir (tokens.flatMap ArgToken.args) (.error "missing <onion-address>")
  | noDirectory (tokens : List (ArgToken os)) {flag : os.OsString}
      (isFlag : os.toStringLossy flag = "--store") :
      Means dataDir (tokens.flatMap ArgToken.args ++ [flag]) (.error "--store needs a directory")

end Parse

variable {os : OsStrings} {dataDir : Option FilePath}

/-! ### The loop -/

theorem scanArgs_encrypted (scanned : Scanned) {arg : os.OsString}
    (isFlag : os.toStringLossy arg = "--store-encrypted") (args : List os.OsString) :
    scanArgs os scanned (arg :: args) = scanArgs os { scanned with encrypted := true } args := by
  cases args <;> simp [scanArgs, isFlag]

theorem scanArgs_positional (scanned : Scanned) {arg : os.OsString}
    (notStore : os.toStringLossy arg ≠ "--store")
    (notEncrypted : os.toStringLossy arg ≠ "--store-encrypted") (args : List os.OsString) :
    scanArgs os scanned (arg :: args) =
      scanArgs os { scanned with
        positional := scanned.positional ++ [os.toStringLossy arg] } args := by
  cases args <;> simp [scanArgs, notStore, notEncrypted]

/-- The loop reads tokens into what it has collected before. -/
theorem scanArgs_tokens (tokens : List (ArgToken os)) (scanned : Scanned)
    (rest : List os.OsString) :
    scanArgs os scanned (tokens.flatMap ArgToken.args ++ rest) =
      scanArgs os {
        storeDir := (tokens.filterMap ArgToken.storeDir).getLast?.or scanned.storeDir
        encrypted := scanned.encrypted || tokens.any ArgToken.isEncrypted
        positional := scanned.positional ++ tokens.filterMap ArgToken.text } rest := by
  induction tokens generalizing scanned with
  | nil => simp
  | cons token tokens ih =>
      rw [List.flatMap_cons, List.append_assoc]
      cases token with
      | store flag dir isFlag =>
          simp only [ArgToken.args, List.cons_append, List.nil_append, scanArgs, if_pos isFlag, ih]
          simp [ArgToken.storeDir, ArgToken.isEncrypted, ArgToken.text, List.getLast?_cons,
            List.filterMap_cons]
      | storeEncrypted flag isFlag =>
          simp only [ArgToken.args, List.cons_append, List.nil_append,
            scanArgs_encrypted scanned isFlag, ih]
          simp [ArgToken.storeDir, ArgToken.isEncrypted, ArgToken.text, List.filterMap_cons]
      | positional arg notStore notEncrypted =>
          simp only [ArgToken.args, List.cons_append, List.nil_append,
            scanArgs_positional scanned notStore notEncrypted, ih]
          simp [ArgToken.storeDir, ArgToken.isEncrypted, ArgToken.text, List.filterMap_cons]

theorem scanArgs_ofTokens (tokens : List (ArgToken os)) (rest : List os.OsString) :
    scanArgs os ⟨none, false, []⟩ (tokens.flatMap ArgToken.args ++ rest) =
      scanArgs os (.ofTokens os tokens) rest := by
  rw [scanArgs_tokens]
  simp [Scanned.ofTokens]

/-- Arguments are tokens, or end in an option without its directory. -/
theorem exists_tokens (args : List os.OsString) :
    ∃ tokens : List (ArgToken os), args = tokens.flatMap ArgToken.args ∨
      ∃ flag, os.toStringLossy flag = "--store" ∧
        args = tokens.flatMap ArgToken.args ++ [flag] := by
  have further : ∀ (token : ArgToken os) rest,
      (∃ tokens : List (ArgToken os), rest = tokens.flatMap ArgToken.args ∨
        ∃ flag, os.toStringLossy flag = "--store" ∧
          rest = tokens.flatMap ArgToken.args ++ [flag]) →
      ∃ tokens : List (ArgToken os), token.args ++ rest = tokens.flatMap ArgToken.args ∨
        ∃ flag, os.toStringLossy flag = "--store" ∧
          token.args ++ rest = tokens.flatMap ArgToken.args ++ [flag] := by
    rintro token _ ⟨tokens, rfl | ⟨flag, isFlag, rfl⟩⟩
    · exact ⟨token :: tokens, .inl rfl⟩
    · exact ⟨token :: tokens, .inr ⟨flag, isFlag, by simp⟩⟩
  induction args using List.twoStepInduction with
  | nil => exact ⟨[], .inl rfl⟩
  | singleton arg =>
      by_cases isStore : os.toStringLossy arg = "--store"
      · exact ⟨[], .inr ⟨arg, isStore, rfl⟩⟩
      · by_cases isEncrypted : os.toStringLossy arg = "--store-encrypted"
        · exact ⟨[.storeEncrypted arg isEncrypted], .inl rfl⟩
        · exact ⟨[.positional arg isStore isEncrypted], .inl rfl⟩
  | cons_cons arg next rest afterTwo afterOne =>
      by_cases isStore : os.toStringLossy arg = "--store"
      · exact further (.store arg next isStore) rest afterTwo
      · by_cases isEncrypted : os.toStringLossy arg = "--store-encrypted"
        · exact further (.storeEncrypted arg isEncrypted) (next :: rest) (afterOne next)
        · exact further (.positional arg isStore isEncrypted) (next :: rest) (afterOne next)

/-! ### The meaning -/

theorem Means.of_tokens (dataDir : Option FilePath) (tokens : List (ArgToken os)) :
    ∃ result, Means os dataDir (tokens.flatMap ArgToken.args) result := by
  cases positional : tokens.filterMap ArgToken.text with
  | nil => exact ⟨_, .noManifest tokens positional⟩
  | cons manifest others =>
      cases others with
      | nil => exact ⟨_, .noOnion tokens positional⟩
      | cons onion others => exact ⟨_, .accepted tokens positional⟩

theorem Means.exists_result (dataDir : Option FilePath) (args : List os.OsString) :
    ∃ result, Means os dataDir args result := by
  obtain ⟨tokens, rfl | ⟨flag, isFlag, rfl⟩⟩ := exists_tokens args
  · exact Means.of_tokens dataDir tokens
  · exact ⟨_, .noDirectory tokens isFlag⟩

theorem Means.parseCli {args : List os.OsString} {result : Except String Cli}
    (means : Means os dataDir (args.drop 1) result) : parseCli os dataDir args = result := by
  have scanned : ∀ tokens : List (ArgToken os),
      scanArgs os ⟨none, false, []⟩ (tokens.flatMap ArgToken.args) =
        .ok (.ofTokens os tokens) := by
    intro tokens
    have ofTokens := scanArgs_ofTokens tokens []
    rwa [List.append_nil] at ofTokens
  unfold EntangledClient.parseCli
  generalize args.drop 1 = rest at means
  cases means with
  | @accepted tokens manifest onion others positional =>
      rw [scanned]
      simp only [Scanned.ofTokens, positional]
      cases others <;> rfl
  | noManifest tokens positional =>
      rw [scanned]
      simp only [Scanned.ofTokens, positional]
      rfl
  | noOnion tokens positional =>
      rw [scanned]
      simp only [Scanned.ofTokens, positional]
      rfl
  | @noDirectory tokens flag isFlag =>
      rw [scanArgs_ofTokens]
      simp only [scanArgs, if_pos isFlag]
      rfl

/-- The parse gives what the arguments after the name of the program mean. -/
theorem parseCli_eq_iff (args : List os.OsString) (result : Except String Cli) :
    parseCli os dataDir args = result ↔ Means os dataDir (args.drop 1) result := by
  constructor
  · rintro rfl
    obtain ⟨result, means⟩ := Means.exists_result dataDir (args.drop 1)
    rwa [means.parseCli]
  · exact Means.parseCli

end EntangledClient
