/-
Programs that work on the names of files.
-/

import TraceForward.Shell.Fields
import TraceForward.Tools.Lines

namespace TraceForward
namespace Tool

/-! ### The parts of a path -/

def trimSlashes (path : Bytes) : Bytes :=
  (path.reverse.dropWhile (· == 0x2F)).reverse

def lastName (path : Bytes) : Bytes :=
  let trimmed := trimSlashes path
  if trimmed.isEmpty then path.take 1
  else (trimmed.reverse.takeWhile (· != 0x2F)).reverse

def frontOf (path : Bytes) : Bytes :=
  let trimmed := trimSlashes path
  let front : Bytes := (trimmed.reverse.dropWhile (· != 0x2F)).reverse
  if trimmed.isEmpty then if path.isEmpty then [0x2E] else [0x2F]
  else if front.isEmpty then [0x2E]
  else
    let trimmedFront := trimSlashes front
    if trimmedFront.isEmpty then [0x2F] else trimmedFront

def withoutSuffix (suffix name : Bytes) : Bytes :=
  let front := name.take (name.length - suffix.length)
  if suffix.length < name.length && name.drop front.length == suffix then front else name

def basename : Tool :=
  withOptions
    { flags := "az", valued := "s", isMixed := false
      long := [("multiple", 'a'), ("suffix", 's')] } 1 fun given => do
    let write (suffix : Bytes) (paths : List Bytes) : Proc Nat :=
      print "basename" (joinLines (paths.map fun path => withoutSuffix suffix (lastName path))) 0
    match given.value? 's', given.operands with
    | _, [] => refuse "basename" "missing operand"
    | some suffix, paths => write suffix paths
    | none, paths =>
        if given.has 'a' then write [] paths
        else
          match paths with
          | [path] => write [] [path]
          | [path, suffix] => write suffix [path]
          | _ => refuse "basename" "extra operand"

def dirname : Tool :=
  withOptions { flags := "z" } 1 fun given =>
    if given.operands.isEmpty then refuse "dirname" "missing operand"
    else print "dirname" (joinLines (given.operands.map frontOf)) 0

/-! ### Listing -/

def findFile (word : Bytes) : Proc (Except SystemFault (Position × Inode)) :=
  Proc.viewFiles fun files => files.find (fileName word)

def listNames (given : Given) (position : Position) (files : Files) : List Bytes :=
  let names := (files.children position).map Bytes.ofText
  let shown := names.filter fun name =>
    given.has 'a' || given.has 'A' || name.head? != some 0x2E
  let ordered := Shell.sortWords (if given.has 'a' then [0x2E] :: [0x2E, 0x2E] :: shown else shown)
  if given.has 'r' then ordered.reverse else ordered

def blocks (inode : Inode) : Nat :=
  match inode.node with
  | .file content => (content.length + 4095) / 4096 * 4
  | .directory => 4
  | _ => 0

def listed (given : Given) (inode : Option Inode) (name : Bytes) : Bytes :=
  let isDirectory := inode.any (·.node == .directory)
  let isProgram := inode.any fun inode => inode.mode &&& 0o111 != 0
  let mark : Bytes :=
    if isDirectory && (given.has 'F' || given.has 'p') then [0x2F]
    else if given.has 'F' && isProgram then [0x2A]
    else []
  let size : Bytes :=
    if given.has 's' then digits ((inode.map blocks).getD 0) ++ [0x20] else []
  size ++ name ++ mark ++ [0x0A]

def listDirectory (given : Given) (position : Position) (files : Files) : Bytes :=
  let names := listNames given position files
  let inodeOf (name : Bytes) : Option Inode :=
    match name with
    | [0x2E] => files.inodeAt? position
    | [0x2E, 0x2E] => files.inodeAt? position.dropLast
    | name => files.inodeAt? (position ++ [fileName name])
  let total := ((names.filterMap inodeOf).map blocks).foldl (· + ·) 0
  let head := if given.has 's' then Bytes.ofText s!"total {total}\n" else []
  head ++ names.flatMap fun name => listed given (inodeOf name) name

def ls : Tool :=
  withOptions { flags := "1aAdFprsCx", long := [("all", 'a'), ("almost-all", 'A')] } 2
    fun given => do
      let operands := if given.operands.isEmpty then [[0x2E]] else given.operands
      let found ← (Shell.sortWords operands).mapM fun word => do
        return (word, ← findFile word)
      let missing := found.filter fun entry => !entry.2.isOk
      missing.forM fun entry =>
        complain (Bytes.ofText "ls") s!"cannot access '{fileName entry.1}'"
      let known := found.filterMap fun (word, entry) =>
        entry.toOption.map fun (position, inode) => (word, position, inode)
      let isListed (entry : Bytes × Position × Inode) : Bool :=
        entry.2.2.node == .directory && !given.has 'd'
      let (directories, others) := known.partition isListed
      let plain := others.flatMap fun (word, _, inode) => listed given (some inode) word
      let parts ← directories.mapM fun (word, position, _) => do
        let shown ← Proc.viewFiles (listDirectory given position)
        return (if operands.length = 1 then [] else word ++ Bytes.ofText ":\n") ++ shown
      let sections := (if plain.isEmpty then [] else [plain]) ++ parts
      print "ls" (List.intercalate [0x0A] sections) (if missing.isEmpty then 0 else 2)

/-! ### Making and removing -/

def forOperands (name : String) (act : Bytes → Proc (Option SystemFault)) :
    List Bytes → Nat → Proc Nat
  | [], code => return code
  | word :: rest, code => do
      match ← act word with
      | none => forOperands name act rest code
      | some fault => do
          complain (Bytes.ofText name) s!"{fileName word}: {fault.reason}"
          forOperands name act rest 1

def waysTo (path : Bytes) : List Bytes :=
  let parts := splitAt 0x2F path
  (List.range parts.length).filterMap fun index =>
    let way : Bytes := List.intercalate [0x2F] (parts.take (index + 1))
    if way.isEmpty then none else some way

def mkdir : Tool :=
  withOptions
    { flags := "pv", valued := "m", long := [("parents", 'p'), ("mode", 'm')] } 1 fun given => do
    let mask ← Proc.mask
    let asked := (given.value? 'm').bind fun word => Mode.parse? word.latin mask true
    let usual := Mode.without 0o777 mask
    let make (path : Bytes) : Proc (Option SystemFault) :=
      Proc.changeFiles fun files =>
        files.makeDirectory (fileName path) ((asked.map fun change => change 0o777).getD usual)
    let makeAll (path : Bytes) : Proc (Option SystemFault) := do
      let faults ← (waysTo path).mapM make
      match faults.getLast? with
      | some (some .exists) =>
          match ← findFile path with
          | .ok (_, { node := .directory, .. }) => return none
          | _ => return some .exists
      | some fault => return fault
      | none => return some .notFound
    if given.operands.isEmpty then refuse "mkdir" "missing operand"
    else forOperands "mkdir" (if given.has 'p' then makeAll else make) given.operands 0

def rmdir : Tool :=
  withOptions { flags := "pv" } 1 fun given =>
    if given.operands.isEmpty then refuse "rmdir" "missing operand"
    else
      forOperands "rmdir" (fun word => Proc.changeFiles (·.removeDirectory (fileName word)))
        given.operands 0

def rm : Tool :=
  withOptions
    { flags := "dfirRvI"
      long := [("force", 'f'), ("recursive", 'r'), ("verbose", 'v'), ("dir", 'd')] } 1
    fun given => do
      let isDeep := given.has 'r' || given.has 'R'
      let remove (word : Bytes) : Proc (Option SystemFault) := do
        match ← findFile word with
        | .error .notFound => return if given.has 'f' then none else some .notFound
        | .error fault => return some fault
        | .ok (position, inode) =>
            if inode.node = .directory && isDeep then
              Proc.changeFiles fun files => .ok (files.removeTree position)
            else if inode.node = .directory && given.has 'd' then
              Proc.changeFiles (·.removeDirectory (fileName word))
            else Proc.changeFiles (·.remove (fileName word))
      if given.operands.isEmpty && !given.has 'f' then refuse "rm" "missing operand"
      else forOperands "rm" remove given.operands 0

def touch : Tool :=
  withOptions
    { flags := "acmfh", valued := "drt", long := [("no-create", 'c'), ("date", 'd')] } 1
    fun given => do
      let make (word : Bytes) : Proc (Option SystemFault) := do
        if (← findFile word).isOk then return none
        else if given.has 'c' then return none
        else
          match ← Proc.openPath 3 (fileName word) .append with
          | .ok descriptor => do
              Proc.close descriptor
              return none
          | .error fault => return some fault
      if given.operands.isEmpty then refuse "touch" "missing file operand"
      else forOperands "touch" make given.operands 0

def chmod : Tool := fun invocation => do
  let isFlag (word : Bytes) : Bool := ["-v", "-f", "-c", "-R", "--"].contains word.latin
  match invocation.words.dropWhile isFlag with
  | mode :: first :: rest => do
      let mask ← Proc.mask
      let change (word : Bytes) : Proc (Option SystemFault) :=
        Proc.changeFiles fun files => do
          let (_, inode) ← files.find (fileName word)
          match Mode.parse? mode.latin mask (inode.node == .directory) with
          | some change => files.setMode (fileName word) change
          | none => .error .invalidArgument
      forOperands "chmod" change (first :: rest) 0
  | _ => refuse "chmod" "missing operand"

/-! ### Moving and copying -/

/-- The path that a file comes to in a place, which may be a directory. -/
def targetFor (source place : Bytes) : Proc Bytes := do
  match ← findFile place with
  | .ok (_, { node := .directory, .. }) => return place ++ [0x2F] ++ lastName source
  | _ => return place

def intoPlace (name : String) (act : Bytes → Bytes → Proc (Option SystemFault))
    (operands : List Bytes) : Proc Nat := do
  match operands.reverse with
  | place :: first :: rest =>
      let sources := (first :: rest).reverse
      let isDirectory :=
        match ← findFile place with
        | .ok (_, { node := .directory, .. }) => true
        | _ => false
      if 1 < sources.length && !isDirectory then refuse name "target is not a directory"
      else
        forOperands name (fun source => do act source (← targetFor source place)) sources 0
  | _ => refuse name "missing operand"

def mv : Tool :=
  withOptions { flags := "finuvT", long := [("force", 'f'), ("no-clobber", 'n')] } 1
    fun given => do
      let move (source target : Bytes) : Proc (Option SystemFault) := do
        if given.has 'n' && (← findFile target).isOk then return none
        else Proc.changeFiles (·.rename (fileName source) (fileName target))
      intoPlace "mv" move given.operands

def copyFile (source target : Bytes) : Proc (Option SystemFault) := do
  match ← findFile source with
  | .error fault => return some fault
  | .ok (_, inode) =>
      match ← contentOf source with
      | .error fault => return some fault
      | .ok content =>
          let isNew := !(← findFile target).isOk
          match ← Proc.changeFiles (·.write (fileName target) content) with
          | some fault => return some fault
          | none => do
              let mask ← Proc.mask
              if isNew then
                let _ ← Proc.changeFiles (·.setMode (fileName target) fun _ =>
                  Mode.without inode.mode mask)
              return none

def copyTree : Nat → Bytes → Bytes → Proc (Option SystemFault)
  | 0, _, _ => Proc.endless
  | depth + 1, source, target => do
      match ← findFile source with
      | .ok (position, { node := .directory, .. }) => do
          let _ ← Proc.changeFiles (·.makeDirectory (fileName target))
          let names ← Proc.viewFiles fun files => files.children position
          let faults ← names.mapM fun name =>
            let behind := 0x2F :: Bytes.ofText name
            copyTree depth (source ++ behind) (target ++ behind)
          return faults.findSome? id
      | _ => copyFile source target

def cp : Tool :=
  withOptions
    { flags := "afinprRTuv", long := [("recursive", 'r'), ("archive", 'a'), ("force", 'f')] } 1
    fun given => do
      let isDeep := given.has 'r' || given.has 'R' || given.has 'a'
      let copy (source target : Bytes) : Proc (Option SystemFault) := do
        if given.has 'n' && (← findFile target).isOk then return none
        else if isDeep then copyTree 100 source target
        else copyFile source target
      intoPlace "cp" copy given.operands

def mktemp : Tool :=
  withOptions { flags := "dqtu", valued := "p" } 1 fun given => do
    let directory := (given.value? 'p').getD (Bytes.ofText "/tmp")
    let template := (given.operands.head?).getD (directory ++ Bytes.ofText "/tmp.XXXXXXXXXX")
    let front : Bytes := (template.reverse.dropWhile (· == 0x58)).reverse
    let width := template.length - front.length
    let name (index : Nat) : Bytes :=
      front ++ List.replicate (width - (digits index).length) 0x30 ++ digits index
    let isFree (files : Files) (index : Nat) : Bool := !(files.find (fileName (name index))).isOk
    let index ← Proc.viewFiles fun files => ((List.range 1000).find? (isFree files)).getD 0
    let path := fileName (name index)
    let make (files : Files) : Except SystemFault Files :=
      if given.has 'd' then files.makeDirectory path 0o700
      else (files.openFile path 0o600).map Prod.snd
    if width < 3 then refuse "mktemp" "too few X's in template"
    else
      match ← Proc.changeFiles make with
      | some fault => refuse "mktemp" fault.reason
      | none => print "mktemp" (name index ++ [0x0A]) 0

end Tool
end TraceForward
