import LayeredConfig.Config
import LayeredConfig.Text.Cut

/-!
# What a file sets

A file gives values to some of its keys.  A key is that of a setting, or the
older name of a receiver setting in the `openWebIF` block.  Duration settings
and the two comma-joined lists have another form in the file than in the
configuration.
-/

namespace LayeredConfig

open Text

namespace Setting

/-- The receiver settings that have a second name, in the order in which they are checked. -/
def receiverAliases : List Setting :=
  [.receiverBaseUrl, .receiverUsername, .receiverPassword, .receiverTimeout, .receiverRetries,
   .receiverBackoff, .receiverMaxBackoff, .receiverStreamPort, .receiverUseWebIfStreams]

def steps (s : Setting) : List String :=
  match s.row.path with
  | some path => (pieces '.' path.toList).map String.ofList
  | none => []

def lastStep (s : Setting) : String := s.steps.getLast?.getD ""

/-- How a value stands in the file. -/
inductive Form where
  /-- As the configuration holds it. -/
  | asHeld
  /-- A text, or a number that counts as one. -/
  | textOrNumber
  /-- A list of texts, joined by commas in the configuration. -/
  | listOfTexts
  deriving DecidableEq, Repr

def form (s : Setting) : Form :=
  match s with
  | .receiverAnalyzeDuration | .receiverProbeSize | .vodProbeSize | .vodAnalyzeDuration =>
      .textOrNumber
  | _ =>
      if s.isCommaList then .listOfTexts
      else if s.kind = .duration then .textOrNumber
      else .asHeld

end Setting

inductive FileKey where
  | own (s : Setting)
  /-- The name in the older receiver block. -/
  | older (s : Setting)
  deriving DecidableEq, Repr

namespace FileKey

/-- The block that holds the older names. -/
def olderBlock : String := "openWebIF"

def receiverBlock : String := "enigma2"

def recordingBlock : String := "vod"

def setting : FileKey → Setting
  | .own s | .older s => s

def steps : FileKey → List String
  | .own s => s.steps
  | .older s => [olderBlock, s.lastStep]

def path (k : FileKey) : String := ".".intercalate k.steps

def keys : List FileKey := Setting.receiverAliases.map FileKey.older ++ Setting.all.map FileKey.own

def dotted : FileKey → String
  | .own s => s.row.path.getD ""
  | .older s => olderBlock ++ "." ++ s.lastStep

/-- The key with the given steps.  The dotted texts are compared first: only those that agree have
to be cut. -/
def withSteps (steps : List String) : Option FileKey :=
  let text := ".".intercalate steps
  keys.find? fun k => k.dotted = text && k.steps = steps

def blocks : List (List String) :=
  [[olderBlock], [receiverBlock], ["picons"], ["api"], ["epg"], ["engine"], ["store"], ["hls"],
   ["ffmpeg"], [recordingBlock], ["tls"], ["rateLimit"], ["network"], ["network", "outbound"],
   ["network", "outbound", "allow"], ["metrics"], ["streaming"], ["verification"],
   ["recording_playback"], ["library"]]

/-- Do some keys lie inside the block with these steps? -/
def isBlock (steps : List String) : Bool := blocks.contains steps

theorem intercalate_pieces (text : String) :
    ".".intercalate ((pieces '.' text.toList).map String.ofList) = text := by
  have back : String.toList ∘ String.ofList = id := funext fun _ => String.toList_ofList
  have chars := toList_intercalate '.' ((pieces '.' text.toList).map String.ofList)
  rw [List.map_map, back, List.map_id, joinWith_pieces] at chars
  exact String.toList_inj.mp chars

theorem dotted_eq_path (k : FileKey) : k.dotted = k.path := by
  cases k with
  | own s =>
      rw [dotted, path, steps, Setting.steps]
      cases s.row.path with
      | none => rfl
      | some text => exact (intercalate_pieces text).symm
  | older s => rfl

/-- To compare the dotted texts first makes no difference. -/
theorem withSteps_eq (steps : List String) :
    withSteps steps = keys.find? fun k => k.steps = steps := by
  show (keys.find? fun k => k.dotted = ".".intercalate steps && k.steps = steps) = _
  congr 1
  funext k
  by_cases same : k.steps = steps
  · simp [same, dotted_eq_path, path]
  · simp [same]

end FileKey

/-- The values that a file gives to its keys. -/
structure File where
  value : FileKey → Option Value
  /-- The blocks that stand in the file, those without keys included. -/
  blocks : List (List String) := []

namespace File

def empty : File where
  value := fun _ => none

def put (f : File) (k : FileKey) (v : Option Value) : File :=
  { f with value := fun other => if other = k then v else f.value other }

def addBlock (f : File) (steps : List String) : File :=
  { f with blocks := f.blocks ++ [steps] }

def hasBlock (f : File) (steps : List String) : Bool := f.blocks.contains steps

theorem put_same (f : File) (k : FileKey) (v : Option Value) : (f.put k v).value k = v := by
  simp [put]

theorem put_other (f : File) {k other : FileKey} (v : Option Value) (differ : other ≠ k) :
    (f.put k v).value other = f.value other := by
  simp [put, differ]

theorem hasBlock_addBlock (f : File) (steps block : List String) :
    (f.addBlock steps).hasBlock block = true ↔ f.hasBlock block = true ∨ block = steps := by
  simp [addBlock, hasBlock]

end File

end LayeredConfig
