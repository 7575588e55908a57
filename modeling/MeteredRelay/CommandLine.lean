import MeteredRelay.CommandLine.Request
import MeteredRelay.Config.Check
import MeteredRelay.Files.Tree

/-!
# The command line

What the program does when it is called: it looks at its arguments, at the configuration file that
they name, and then at the rest of the request.  All of that is settled before anything is done, so
it is a function, **`CommandLine.plan`**, from the arguments and the files of the machine to a
**`Plan`**.  The program then carries the plan out.

A fault is shown as a chain of causes, numbered if there are several (**`faultText`**), and ends the
program with status one; arguments that make no sense end it with status two.
-/

namespace MeteredRelay.CommandLine

/-- What is to be done. -/
inductive Plan where
  /-- Show a text. -/
  | say (text : String)
  /-- Say that the arguments make no sense. -/
  | refuse
  /-- Tell a fault by its causes. -/
  | fail (causes : List String)
  /-- Show a random key of cookies. -/
  | sayCookieKey
  /-- Store a new key pair. -/
  | storeKey (path : String)
  /-- Run the relay. -/
  | serve (s : Settings)

/-- The configuration with what the arguments put in its place. -/
def amended (g : Given) (c : Config) : Config :=
  let server := if g.listen.isEmpty then c.server
    else { c.server with listen := g.listen.map SocketAddress.text }
  let logging := match g.logLevel with
    | some l => { c.logging with level := l }
    | none => c.logging
  { c with server, logging }

/-- The configuration that the arguments ask for, checked. -/
def configOf (files : Files) (g : Given) : Except ConfigFault Config := do
  let c ← match g.config with
    | some path => Config.load files path
    | none => pure {}
  let c := amended g c
  c.check
  return c

/-- A fault at the start of the relay, told from what was attempted. -/
def startFault (f : RelayFault) : List String := "starting relay server" :: f.causes

/-- What is to be done for a task. -/
def planTask (files : Files) (c : Config) : Task → Plan
  | .cookieKey => .sayCookieKey
  | .keygen output => .storeKey output
  | .run =>
    match c.toSettings files with
    | .error f => .fail f.causes
    | .ok s =>
      match s.check with
      | .error f => .fail (startFault f)
      | .ok () => .serve s

/-- What is to be done for a call of the program. -/
def plan (files : Files) (arguments : List String) : Plan :=
  match Request.ofArguments arguments with
  | .refused => .refuse
  | .help page => .say page.text
  | .version => .say versionText
  | .work g t =>
    match configOf files g with
    | .error f => .fail f.causes
    | .ok c => planTask files c t

/-- The files that a call of the program looks at, given what was read of them so far. -/
def filesOf (files : Files) (arguments : List String) : List String :=
  match Request.ofArguments arguments with
  | .work g _ =>
    let key := match configOf files g with
      | .ok c => c.keys.privateKeyFile.toList
      | .error _ => []
    g.config.toList ++ key
  | _ => []

/-! ## What is shown -/

/-- Causes below the first one. -/
def behindText : List String → String
  | [] => ""
  | [c] => s!"\nCaused by:\n    {c}\n"
  | cs => "\nCaused by:\n" ++ String.join (cs.zipIdx.map fun (c, i) => s!"    {i}: {c}\n")

/-- A fault with its causes. -/
def faultText : List String → String
  | [] => ""
  | c :: behind => s!"Error: {c}\n" ++ behindText behind

/-- A key of cookies. -/
def cookieKeyText (k : Key) : String := k.toHex ++ "\n"

/-- A new key pair that was stored. -/
def storedText (path : String) (k : KemPublicKey) : String :=
  s!"Public key: {k.bytes.toHex}\nPrivate key saved to: {path}\n\n" ++
    "Keep this file secure! It contains your private key.\n"

/-- What is said before a key pair is made. -/
def generatingText : String := "Generating new ML-KEM-768 keypair...\n"

/-- A key pair that could not be stored. -/
def storeFault (path : String) (f : FileFault) : List String :=
  s!"writing {path}" :: (CipherFault.keyFile f).causes

/-- The files after a key was stored: the directories on the way are made first.  A fault in making
them is told as it is. -/
def stored (t : FileTree) (path : String) (k : KemPrivateKey) : Except (List String) FileTree := do
  let t ← (t.makeOuter path).mapError fun f => [f.message]
  (t.write path k.fileText).mapError (storeFault path)

end MeteredRelay.CommandLine
