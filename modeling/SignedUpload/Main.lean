import SignedUpload.CommandLine.Session
import SignedUpload.FileTree
import SignedUpload.Http.Octets
import Std.Async.DNS
import Std.Async.TCP
import Std.Time.DateTime.Timestamp

/-! The program: the command line over the real files, clock and network. Requests go over plain
connections without a limit of time, so one with the scheme `https` breaks, and a redirection is not
followed but taken as the answer. -/
namespace SignedUpload.CommandLine

open Std.Async

def faultText (details : String) (code : UInt32) : DiskFault :=
  .other (details ++ " (os error " ++ Decimal.natText code.toNat ++ ")")

def faultOf : IO.Error → DiskFault
  | .noFileOrDirectory _ code details => faultText details code
  | .permissionDenied _ code details => faultText details code
  | .inappropriateType _ code details => faultText details code
  | .invalidArgument _ code details => faultText details code
  | .resourceExhausted _ code details => faultText details code
  | .hardwareFault code details => faultText details code
  | .unsatisfiedConstraints code details => faultText details code
  | .otherError code details => faultText details code
  | e => .other (toString e)

def attempt (act : IO α) : IO (Except DiskFault α) := do
  match ← act.toBaseIO with
  | .ok a => pure (.ok a)
  | .error e => pure (.error (faultOf e))

def systemName (path : Path) : Except DiskFault String :=
  if path.contains 0 then .error .nulInPath
  else match Utf8.decode? path with
    | some name => .ok name
    | none => .error .notFound

def readWhole (path : Path) : IO (Except DiskFault Bytes) := do
  match systemName path with
  | .error fault => pure (.error fault)
  | .ok name => attempt do pure (← IO.FS.readBinFile name).toList

def headOf (name : String) : IO Bytes :=
  IO.FS.withFile name .read fun handle => do
    pure (← handle.read (USize.ofNat FileTree.headSize)).toList

def lookAt (path : Path) : IO Sighting := do
  match systemName path with
  | .error fault => pure (.unreachable fault)
  | .ok name => match ← attempt (IO.FS.realPath name) with
    | .error fault => pure (.unreachable fault)
    | .ok real => match ← attempt real.metadata with
      | .error fault => pure (.unreachable fault)
      | .ok shown =>
        if shown.type != .file then pure .notRegular
        else match ← attempt (headOf name) with
          | .error fault => pure (.unopenable fault)
          | .ok head =>
            pure (.regular ⟨Utf8.encode real.toString,shown.byteSize.toNat,head⟩)

def environmentOfBlock (block : Bytes) : Environment := fun name =>
  let key := Utf8.encode (name ++ "=")
  ((pieces 0 block).find? key.isPrefixOf).map (·.drop key.length)

def readEnvironment : IO Environment := do
  match ← readWhole (Utf8.encode "/proc/self/environ") with
  | .ok block => pure (environmentOfBlock block)
  | .error _ => pure fun _ => none

def readClock : IO Instant := do
  let t := (← Std.Time.Timestamp.now).toNanosecondsSinceUnixEpoch.toInt
  pure ⟨t.fdiv 1000000000,(t.emod 1000000000).toNat⟩

def drawSuffix : IO Suffix := do
  pure (Fin.ofNat 100000 (← IO.rand 0 99999))

def drawsPerKey : Nat := 40

def drawSupply (count : Nat) : IO Supply := do
  let now ← readClock
  let millis := now.seconds * 1000 + now.nanos / 1000000
  let draws ← (List.replicate ((count + 1) * drawsPerKey) ()).mapM fun _ => drawSuffix
  pure ⟨List.replicate count millis,draws⟩

def addressOf (port : UInt16) : Std.Net.IPAddr → Std.Net.SocketAddress
  | .v4 addr => .v4 ⟨addr,port⟩
  | .v6 addr => .v6 ⟨addr,port⟩

def connectAny (port : UInt16) : List Std.Net.IPAddr → Async TCP.Socket.Client
  | [] => throw (IO.userError "no address takes a connection")
  | addr :: rest => do
    let client ← TCP.Socket.Client.mk
    try
      client.connect (addressOf port addr)
      pure client
    catch _ => connectAny port rest

partial def receiveAll (client : TCP.Socket.Client) (seen : ByteArray) : Async ByteArray := do
  let next ← try client.recv? 65536 catch _ => pure none
  match next with
  | none => pure seen
  | some bytes => receiveAll client (seen ++ bytes)

def exchange (peer : String × Nat) (octets : Bytes) : Async Bytes := do
  let addresses ← DNS.getAddrInfo peer.1 (Decimal.natText peer.2)
  let client ← connectAny (UInt16.ofNat peer.2) addresses.toList
  client.send ⟨octets.toArray⟩
  pure (← receiveAll client .empty).toList

def drawBoundary : IO String := do
  let digits ← (List.replicate 32 ()).mapM fun _ => do pure (Nat.digitChar (← IO.rand 0 15))
  pure (String.ofList digits)

def sendOver (request : Http.Request) : IO Http.Reply := do
  if request.url.scheme ≠ "http" then pure .broken
  else
    let octets := request.octets (← drawBoundary)
    match ← (exchange request.url.peer octets).block.toBaseIO with
    | .ok bytes => pure (.ofOctets bytes)
    | .error _ => pure .broken

def printNow (text : String) : IO Unit := do
  let out ← IO.getStdout
  out.putStr text
  out.flush

def systemWorld : World IO where
  environment := readEnvironment
  look := lookAt
  read := readWhole
  send := sendOver
  now := readClock
  supply := drawSupply
  print := printNow

end SignedUpload.CommandLine

def main (words : List String) : IO UInt32 :=
  SignedUpload.CommandLine.run SignedUpload.CommandLine.systemWorld words
