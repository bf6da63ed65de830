import Patternwork.Json.Record
import Patternwork.Loading.Failure
import Patternwork.Yaml.Record

namespace Patternwork

def fileName (path : String) : List Char :=
  (path.toList.reverse.takeWhile (· ≠ '/')).reverse

/-- What follows the last dot of a file name. A dot in front of the whole name begins
    no extension. -/
def extension? (path : String) : Option (List Char) :=
  let name := fileName path
  let extension := (name.reverse.takeWhile (· ≠ '.')).reverse
  if name.length ≤ extension.length + 1 then none else some extension

namespace Format

/-- Files whose extension is `json`, in letters of either case, hold JSON, all others
    YAML. -/
def ofPath (path : String) : Format :=
  if (extension? path).any fun extension => extension.map Char.toLower = "json".toList then .json
  else .yaml

end Format

namespace Settings

def ofJson (text : String) : Except LoadFailure Settings :=
  (Json.readRecord text).mapError fun unreadable =>
    (LoadFailure.ofUnreadable unreadable).within (.parse .json)

/-- Reads a record from a JSON document that is read as a whole first. -/
def ofJsonTree (text : String) : Except LoadFailure Settings :=
  (Json.readRecordWhole text).mapError LoadFailure.ofUnreadable

def ofYaml (text : String) : Except LoadFailure Settings :=
  (Yaml.readRecord text).mapError fun unreadable =>
    (LoadFailure.ofUnreadable unreadable).within (.parse .yaml)

def ofText (format : Format) (text : String) : Except LoadFailure Settings :=
  match format with
  | .json => ofJson text
  | .yaml => ofYaml text

/-- Reads a record from the content of a file, if there is a file. It has to be UTF-8. -/
def ofFile (path : String) (content : Option ByteArray) : Except LoadFailure Settings :=
  match content.bind String.fromUTF8? with
  | none => .error ⟨[.readFile path], none⟩
  | some text => (ofText (.ofPath path) text).mapError (.within (.parseFile path))

end Settings

end Patternwork
