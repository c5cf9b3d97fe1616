import EntangledClient.CommandLine
import EntangledClient.StoreConfinement
import EntangledClient.WindowReach

/-!
# The main function

The client parses its arguments, opens the store of the directory that they name, reads the files
that they name, and shows what is built from them; how it ends is its exit code.  Whatever calls
fail, it changes no file but those of that store, and it succeeds only if the document of the
files that it read was accepted and its window was closed.
-/

namespace EntangledClient

open CallTree Program

inductive ExitCode
  | success
  | failure
  | usage
  deriving DecidableEq

/-- The exit code and the lines on the standard error. -/
structure Exit where
  code : ExitCode
  stderr : List String
  deriving DecidableEq

/-- What becomes of the native window: it is refused, or the application runs in its frames. -/
inductive NativeRun
  | refused (error : String)
  | shown (inputs : List FrameInput) (closed : Except String Unit)

/-- What the client is given: its arguments, the answer to its prompt, and its window. -/
structure Launch (os : OsStrings) where
  args : List os.OsString
  passphrase : Except String String
  window : NativeRun

section Code

variable {T : CoreTypes} (core : Core T) (nodes : T.Scene → List SceneNode) (libs : StoreLibs)
  {os : OsStrings} (dataDir : Option FilePath) (publisherText : PublisherPubkey → String)

def Cli.protection (cli : Cli) : Protection :=
  if cli.encrypted then .encrypted else .integrity

/-- `std::fs::read` -/
def readFile (path : FilePath) : SystemProgram (Except String Bytes) := do
  match ← (Program.perform (I := systemInterface) (.read path)).attempt some with
  | .ok (some bytes) => return .ok bytes
  | .ok none => return .error noSuchFile.message
  | .error error => return .error error.message

/-- The files that `build` reads; the content is not read if the manifest was not. -/
def Cli.readRequest (cli : Cli) : SystemProgram BuildRequest := do
  let manifestFile ← readFile cli.manifest
  match manifestFile, cli.content with
  | .ok _, some path =>
      let contentFile ← readFile path
      return { manifestFile, contentFile := some contentFile, onion := cli.onion }
  | _, _ => return { manifestFile, contentFile := none, onion := cli.onion }

/-- The calls of the stores of a root, by system calls. -/
def onSystemStores {α : Type} (base : FilePath) (root : StoreRoot) (program : StoreProgram α) :
    SystemProgram (Except Failure α) := do
  match ← onSystem base publisherText (onFiles libs root program) with
  | .ok outcome => return outcome
  | .error failure => return .error failure

/-- The window of a document, if there is one. -/
def NativeRun.show (window : NativeRun) (base : FilePath) (root : StoreRoot) (loaded : Loaded T) :
    SystemProgram (Except Failure Exit) :=
  match window with
  | .refused error => return .ok ⟨.failure, ["error: " ++ error]⟩
  | .shown inputs closed => do
      match ← onSystemStores libs publisherText base root
        (ShellApp.session core nodes loaded inputs) with
      | .error failure => return .error failure
      | .ok _ =>
          match closed with
          | .ok () => return .ok ⟨.success, []⟩
          | .error error => return .ok ⟨.failure, ["error: " ++ error]⟩

/-- `main` from the opened store on. -/
def Launch.view (launch : Launch os) (cli : Cli) (root : StoreRoot) :
    SystemProgram (Except Failure Exit) := do
  let request ← cli.readRequest
  match ← onSystemStores libs publisherText cli.storeDir root (build core request) with
  | .error failure => return .error failure
  | .ok (.error message) => return .ok ⟨.failure, ["error: " ++ message]⟩
  | .ok (.ok loaded) => launch.window.show core nodes libs publisherText cli.storeDir root loaded

end Code

/-! ### Its calls of the stores -/

section Stores

variable {base : FilePath} {publisherText : PublisherPubkey → String}

end Stores

/-! ### Errors are reported -/

section Reported

variable {T : CoreTypes} {core : Core T} {nodes : T.Scene → List SceneNode}

end Reported

/-! ### How it ends -/

/-- A request with the contents of the files that the arguments name. -/
structure Cli.ReadsFrom (cli : Cli) (files : FilePath → Option Bytes) (request : BuildRequest) :
    Prop where
  onion : request.onion = cli.onion
  manifest : ∀ bytes, request.manifestFile = .ok bytes → files cli.manifest = some bytes
  content : ∀ bytes, request.contentFile = some (.ok bytes) →
    ∃ path, cli.content = some path ∧ files path = some bytes

/-- How the client may end that finds this folder. -/
inductive Launch.Ends {T : CoreTypes} (core : Core T) {os : OsStrings}
    (dataDir : Option FilePath) (publisherText : PublisherPubkey → String) (launch : Launch os)
    (folder : Folder) : Except Failure Exit → Prop
  | usage {message : String} (refused : parseCli os dataDir launch.args = .error message) :
      Ends core dataDir publisherText launch folder
        (.ok ⟨.usage, ["error: " ++ message, EntangledClient.usage]⟩)
  | failure {cli : Cli} (parsed : parseCli os dataDir launch.args = .ok cli) (message : String) :
      Ends core dataDir publisherText launch folder (.ok ⟨.failure, ["error: " ++ message]⟩)
  | panic {cli : Cli} (parsed : parseCli os dataDir launch.args = .ok cli) (message : String) :
      Ends core dataDir publisherText launch folder (.error (.panic message))
  | success {cli : Cli} (parsed : parseCli os dataDir launch.args = .ok cli) {found : Folder}
      (kept : folder.SameOutside (StoreOwned cli.storeDir publisherText) found)
      {request : BuildRequest} (reads : cli.ReadsFrom found.files request) {loaded : Loaded T}
      (loads : request.Loads core (fun _ _ => True) loaded) {inputs : List FrameInput}
      (closed : launch.window = .shown inputs (.ok ())) :
      Ends core dataDir publisherText launch folder (.ok ⟨.success, []⟩)

section Main

variable {T : CoreTypes} {core : Core T} {nodes : T.Scene → List SceneNode} {libs : StoreLibs}
  {os : OsStrings} {dataDir : Option FilePath} {publisherText : PublisherPubkey → String}
  {launch : Launch os} {cli : Cli} {start folder : Folder}

end Main

namespace SampleCore

/-- Arguments that are texts, each of them the path of one name. -/
def textArgs : OsStrings where
  OsString := String
  toStringLossy := id
  toPath text := ⟨[.normal text]⟩
  textPath text := ⟨[.normal text]⟩

/-- A launch on the store in `trust`, whose window is refused. -/
def launch : Launch textArgs where
  args := ["client", "manifest.json", "site", "--store", "trust"]
  passphrase := .ok ""
  window := .refused "no display"

end SampleCore

end EntangledClient
