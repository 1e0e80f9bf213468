import Wiretap.Disk
import Wiretap.Failure
import Wiretap.Journal
import Wiretap.Settings.Document
/-! # Settings from a file

The text of a file is a document that lays out settings, and they are validated. Where there is no
file the standard settings hold, and those are not validated.
-/

namespace Wiretap.Settings

def ofText (text : String) : Except Failure Settings :=
  match Toml.read? text with
  | none => .error (.of .malformedDocument)
  | some document => (ofDocument document).mapError fun fault => .of (.shape fault)

def parse (text : String) : Except Failure Settings := do
  let s ← ofText text
  during .validating s.validate
  return s

def textOf (disk : Disk) (path : String) : Except Failure String :=
  match disk.read path with
  | .error fault => .error (.of (.io fault))
  | .ok bytes =>
    match bytes.toText? with
    | some text => .ok text
    | none => .error (.of (.io .notUtf8))

/-- The settings of the file at a path, or the standard ones when nothing is there. -/
def load (disk : Disk) (path : String) : Except Failure Settings :=
  if disk.exists? path then do
    let text ← during (.readingFile path) (textOf disk path)
    during (.parsingFile path) (parse text)
  else .ok standard

/-- What the journal says when the settings are loaded from a path. -/
def loadJournal (disk : Disk) (path : String) : Journal :=
  if disk.exists? path then
    .info .loader s!"Loading configuration from: {path}" ::
      if (load disk path).isOk then
        [.info .loader "Configuration loaded and validated successfully"]
      else []
  else [.warn .loader s!"Configuration file not found at {path}, using defaults"]

end Wiretap.Settings
