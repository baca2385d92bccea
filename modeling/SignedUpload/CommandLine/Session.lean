import SignedUpload.CommandLine.Arguments
import SignedUpload.CommandLine.Dotenv
import SignedUpload.CommandLine.Report
import SignedUpload.Config.File
import SignedUpload.Uploader.Run

/-! One run of the command line. The world outside gives what files hold and what requests bring back;
the run ends with an exit code: 0, or 1 for a failed check or any error, or 2 for words that are no
command. -/
namespace SignedUpload.CommandLine

structure World (m : Type → Type) where
  environment : m Environment
  look : Path → m Sighting
  read : Path → m (Except DiskFault Bytes)
  send : Http.Request → m Http.Reply
  now : m Instant
  supply : Nat → m Supply
  print : String → m Unit

variable {m : Type → Type} [Monad m]

def sightings (world : World m) : List Path → m (List (Path × Sighting))
  | [] => pure []
  | path :: rest => do
    let here ← world.look path
    let others ← sightings world rest
    pure ((path,here) :: others)

def diskOf (seen : List (Path × Sighting)) : Disk := fun path =>
  (seen.lookup path).getD (.unreachable .notFound)

def settle (world : World m) :
    Nat → Uploader → List Effect → Option Answer → m (Uploader × Option Answer)
  | 0,u,_,answer => pure (u,answer)
  | _ + 1,u,[],answer => pure (u,answer)
  | fuel + 1,u,effect :: rest,answer => do
    let event : Option Uploader.Event ← match effect with
      | .requestPolicy request => do
        let reply ← world.send request
        let now ← world.now
        let supply ← world.supply u.files.length
        pure (some (.policyAnswered reply now supply))
      | .loadFile job => do
        let contents ← world.read job.path
        pure (some (.fileRead job.position contents))
      | .postFile job request => do
        let reply ← world.send request
        pure (some (.postAnswered job.position reply))
      | .allUploaded objects => do
        world.print (objectsText objects)
        pure none
      | _ => pure none
    let answer := match effect with
      | .answer a => some a
      | _ => answer
    match event.bind u.step? with
    | some (u,more) => settle world fuel u (more ++ rest) answer
    | none => settle world fuel u rest answer

def call (world : World m) (u : Uploader) (result : Uploader.Result) : m (Uploader × Option Answer) :=
  settle world (result.2.length + 4 * (u.files.length + result.1.files.length) + 8) result.1 result.2
    none

def exitCode : Option Answer → UInt32
  | some (.failed _) => 1
  | none => 1
  | some _ => 0

def uploadFiles (world : World m) (u : Uploader) (paths : List Path) : m UInt32 := do
  let disk := diskOf (← sightings world paths)
  if u.config.multiple then
    let (u,_) ← call world u u.openDialog
    let (u,_) ← call world u (u.choose disk paths)
    world.print (rowLines u.rows)
    let (u,started) ← call world u (u.begin .start)
    world.print (rowLines u.rows)
    let (_,closed) ← call world u u.closeDialog
    pure (max (exitCode closed) (exitCode started))
  else
    let (_,chosen) ← call world u (u.choose disk paths)
    pure (exitCode chosen)

def config (world : World m) (env : Environment) : Option String → m (Option Config)
  | none => pure (some (.ofEnvironment env))
  | some path => do
    match ← world.read (Utf8.encode path) with
    | .error _ => pure none
    | .ok bytes => pure (Config.ofFile bytes).toOption

def dotenvPath : Path := Utf8.encode ".env"

def run (world : World m) (words : List String) : m UInt32 := do
  let env ← match ← world.read dotenvPath with
    | .ok file => do pure (withDotenv (← world.environment) file)
    | .error _ => world.environment
  match Command.read? words with
  | none => pure 2
  | some (.checkLength range explain value) =>
    match range.check value explain with
    | .ok _ => pure 0
    | .error e => do
      match e.message with
      | some text => world.print (text ++ "\n")
      | none => pure ()
      pure 1
  | some (.upload multiple path files) => do
    match ← config world env path with
    | none => pure 1
    | some config =>
      match Uploader.render { config with multiple := config.multiple || multiple } with
      | .error _ => pure 1
      | .ok u => uploadFiles world u (files.map Utf8.encode)

end SignedUpload.CommandLine
