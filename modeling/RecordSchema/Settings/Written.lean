import RecordSchema.Settings.Basic
import RecordSchema.Toml.Printer

set_option autoImplicit false

/-!
Settings as the text of a TOML file that gives them back.
-/

namespace RecordSchema

namespace Toml

/-- A line that gives a key its value. -/
def line (key : String) (value : List Char) : String :=
  String.ofList (keyChars key.toList ++ [' ', '=', ' '] ++ value ++ ['\n'])

def textLine (key value : String) : String := line key (textChars value.toList)

end Toml

open Toml

def LoaderSettings.toToml (loader : LoaderSettings) : String :=
  "[loader]\n" ++ textLine "schemas_path" loader.schemasPath ++
    textLine "file_pattern" loader.filePattern

def TypeSettings.toToml (types : TypeSettings) : String :=
  let sentinels :=
    "[types.nil_sentinels]\n" ++
      String.join (types.sentinels.toList.map fun e => line e.1 (textArrayChars e.2))
  let dateFormat (f : String × String) : String :=
    "\n[[types.date_formats]]\n" ++ textLine "template" f.1 ++ textLine "regex" f.2
  if types.dateFormats.isEmpty then
    "[types]\n" ++ line "date_formats" (textArrayChars []) ++ "\n" ++ sentinels
  else sentinels ++ String.join (types.dateFormats.map dateFormat)

def Settings.toToml (s : Settings) : String :=
  s.loader.toToml ++ "\n" ++ s.types.toToml ++ "\n[parsing]\n" ++
    textLine "array_nil_policy" s.policy.name

end RecordSchema
