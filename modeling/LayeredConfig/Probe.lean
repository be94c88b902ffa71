import LayeredConfig.Path

/-!
# The probe that belongs to a transcoder

The probe program stands beside the transcoder and shares its name: in the last
step of the transcoder's path `ffmpeg` becomes `ffprobe`.
-/

namespace LayeredConfig.Probe

open Text

/-- Drops the steps at the end that lead nowhere; the first step stays, it says where the path
starts. -/
def dropIdle : List (List Char) → List (List Char)
  | [] => []
  | first :: rest =>
      first :: (rest.reverse.dropWhile fun step => step = [] || step = ['.']).reverse

/-- The name of the probe for a file name. -/
def ofName (name : List Char) : Option (List Char) :=
  (stripStart "ffmpeg".toList name).map fun rest => "ffprobe".toList ++ rest

/-- The probe beside a transcoder, if the transcoder has the usual name. -/
def beside (transcoder : List Char) : Option (List Char) :=
  match (dropIdle (pieces '/' transcoder)).reverse with
  | [] => none
  | [only] => ofName only
  | name :: before =>
      (ofName name).map fun probe => joinWith '/' (dropIdle before.reverse ++ [probe])

/-- The probe to run: the one given, else the one beside the transcoder, else the one on the
search path. -/
def choose (explicit transcoder : String) : String :=
  let given := trim explicit.toList
  if given.isEmpty then
    String.ofList ((beside (trim transcoder.toList)).getD "ffprobe".toList)
  else String.ofList given

end LayeredConfig.Probe
