import Spellspan.Files.System
import Spellspan.Json.Document
import Spellspan.Parse.Listing

/-!
Directories that are handed over as data: a list of records, each with a path. A record with `dir`
is a directory. Any other is a file, with its contents as `text` or as `bytes`, and the listing of
its parse, if it has one, as `cst`.
-/
set_option autoImplicit false

namespace Spellspan.Files.FileSystem

def contentOf? (record : Json) : Option Content := do
  let parse := (record.field? "cst").bind ParseTree.ofJson?
  match record.field? "bytes" with
  | some bytes =>
    let values ← (← bytes.asArray?).mapM Json.asNat?
    some { bytes := ⟨(values.map UInt8.ofNat).toArray⟩, parse }
  | none =>
    let text := ((record.field? "text").bind Json.asString?).getD ""
    some { bytes := text.toUTF8, parse }

def addRecord? (system : FileSystem) (record : Json) : Option FileSystem := do
  let path ← (record.field? "path").bind Json.asString?
  if (record.field? "dir").bind Json.asBool? = some true then some (system.makeDirectory path)
  else (contentOf? record).map (system.write path)

def ofJson? (value : Json) : Option FileSystem :=
  value.asArray?.bind fun records => records.foldlM addRecord? {}

def ofText? (text : String) : Option FileSystem :=
  (Json.parse? text).bind ofJson?

end Spellspan.Files.FileSystem
