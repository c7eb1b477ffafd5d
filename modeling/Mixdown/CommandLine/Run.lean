import Mixdown.CommandLine.Request
import Mixdown.Host.Basic
import Mixdown.Rendering.Basic
import Mixdown.Scene.Reader
import Mixdown.Scene.Writer
import Mixdown.Audio.Tone
import Mixdown.Audio.WaveImport

/-!
# Running a request

Files are read and written through a `Host`. Nothing is written before the scene is read, found
sound, and all of its tracks are added; from then on the output files exist, and hold what was
rendered up to the first error.
-/

namespace Mixdown

/-- Why a request could not be carried out. -/
inductive RunError where
  /-- A file cannot be read. -/
  | file (fault : FileFault)
  /-- The scene file is not JSON, or not of the form of a scene. -/
  | sceneText
  | scene (fault : SceneFault)
  | mixer (error : MixerError)
  /-- A file holds no sound that can be decoded. -/
  | sound
  /-- A tone is longer than any memory. The program is aborted. -/
  | endless
  /-- An output file cannot be written. -/
  | output (fault : FileFault)

namespace RunError

def message : RunError → String
  | file fault => s!"io error: {fault.message}"
  | sceneText => "scene parse error"
  | scene fault => s!"invalid scene: {fault.message}"
  | mixer error => s!"mixer error: {error.message}"
  | sound => "decode error"
  | endless => "capacity overflow"
  | output fault => s!"wav error: {fault.message}"

/-- The messages of what lies behind an error, outermost first. -/
def causes : RunError → List String
  | file fault | output fault => [fault.message]
  | mixer error => error.messages
  | sceneText | scene _ | sound | endless => []

/-- The exit code of the program. -/
def code : RunError → UInt8
  | endless => 101
  | _ => 255

def ofTrackError : TrackError → RunError
  | .mixer error => mixer error
  | .scene fault => scene fault

def ofSceneTextError : SceneTextError → RunError
  | .malformed => sceneText
  | .faulty fault => scene fault

end RunError

/-- How a request ended that was carried out. -/
inductive Outcome where
  | done
  /-- There was nothing to carry out, for a reason. -/
  | refused (reason : String)
deriving DecidableEq, Repr

namespace Outcome

/-- The exit code of the program. -/
def code : Outcome → UInt8
  | done => 0
  | refused _ => 1

end Outcome

/-- The path of a file that a scene names, from where the scene file lies. -/
def pathBeside (scenePath path : String) : String :=
  if path.startsWith "/" then path
  else
    let folder := scenePath.toList.reverse.dropWhile (· != '/')
    String.ofList folder.reverse ++ path

/-- The buses that a request names are buses of the scene. -/
def Scene.busFault? (scene : Scene) (bus : Nat) (wantsAux : Bool) : Option SceneFault :=
  if scene.settings.mainBuses ≤ bus then some (.noMainBus bus scene.settings.mainBuses)
  else if wantsAux && scene.settings.auxBuses = 0 then some .noAuxBus
  else none

section

variable {m : Type → Type} [Monad m]

/-- What a track plays. -/
def loadSource (host : Host m) (scenePath : String) : SourceSpec → ExceptT RunError m Recording
  | .tone tone => match tone.recording? with
    | some recording => return recording
    | none => throw .endless
  | .file path => do
    match ← host.read (pathBeside scenePath path) with
    | .ok bytes => match Recording.ofWaveFile? bytes with
      | some recording => return recording
      | none => throw .sound
    | .error .isFolder => throw .sound
    | .error fault => throw (.file fault)

/-- Add track number `index` of a scene, with its timeline before the first frame. -/
def loadTrack (host : Host m) (scenePath : String) (index : Nat) (mixer : Mixer Clip)
    (spec : TrackSpec) : ExceptT RunError m (Timeline × Mixer Clip) := do
  let recording ← loadSource host scenePath spec.source
  match mixer.addTrack index spec recording with
  | .error e => throw (.ofTrackError e)
  | .ok (slot, mixer) => return (.ofSpec slot spec mixer.settings.sampleRate, mixer)

/-- Add the tracks of a scene, of which the first has number `index`. -/
def addTracks (host : Host m) (scenePath : String) (index : Nat) (mixer : Mixer Clip) :
    List TrackSpec → ExceptT RunError m (List Timeline × Mixer Clip)
  | [] => return ([], mixer)
  | spec :: rest => do
    let (timeline, mixer) ← loadTrack host scenePath index mixer spec
    let (timelines, mixer) ← addTracks host scenePath (index + 1) mixer rest
    return (timeline :: timelines, mixer)

/-- The scene that a file holds. -/
def loadScene (host : Host m) (path : String) : ExceptT RunError m Scene := do
  match (← host.read path).bind textOf? with
  | .error fault => throw (.file fault)
  | .ok text => match Scene.parse text with
    | .ok scene => return scene
    | .error e => throw (.ofSceneTextError e)

/-- A rendering of a scene before its first block. -/
def startRendering (host : Host m) (scenePath : String) (scene : Scene) (bus : Nat) :
    ExceptT RunError m Rendering := do
  match Mixer.new scene.settings (some .standard) with
  | .error e => throw (.mixer e)
  | .ok mixer =>
    let (timelines, mixer) ← addTracks host scenePath 0 mixer scene.tracks
    return { mixer, timelines, bus }

def writeFile (host : Host m) (path : String) (bytes : List UInt8) : ExceptT RunError m Unit := do
  match ← host.write path bytes with
  | .ok () => return ()
  | .error fault => throw (.output fault)

/-- Write the main bus and, if it is wanted, the first auxiliary bus, to two files or to one. -/
def writeOutputs (host : Host m) (r : Rendering) (format : MixFormat) (out : String)
    (auxOut : Option String) : ExceptT RunError m Unit := do
  match auxOut with
  | none => writeFile host out (r.mainWave format).encode
  | some auxOut =>
    if ← host.sameFile out auxOut then writeFile host out (r.sharedFile format)
    else
      writeFile host out (r.mainWave format).encode
      writeFile host auxOut r.auxWave.encode

/-- Render the blocks of a scene to its output files. The files are created before the first
block. -/
def renderTo (host : Host m) (r : Rendering) (scene : Scene) (out : String)
    (auxOut : Option String) : ExceptT RunError m Unit := do
  let format := scene.busFormat r.bus
  writeFile host out (r.mainWave format).encode
  if let some auxOut := auxOut then writeFile host auxOut r.auxWave.encode
  let r := r.renderBlocks scene.blockCount
  writeOutputs host r format out auxOut
  if let some e := r.failure then throw (.mixer e)

/-- Render a scene file. -/
def renderScene (host : Host m) (scenePath out : String) (bus : Nat) (auxOut : Option String) :
    ExceptT RunError m Unit := do
  let scene ← loadScene host scenePath
  if let some fault := scene.busFault? bus auxOut.isSome then throw (.scene fault)
  let r ← startRendering host scenePath scene bus
  renderTo host r scene out auxOut

/-- Carry out a request. -/
def Request.run (host : Host m) : Request → ExceptT RunError m Outcome
  | render scene out bus auxOut => do
    renderScene host scene out bus auxOut
    return .done
  | sampleScene => do
    host.print (Scene.sample.toJson.toText ++ "\n")
    return .done
  | create => return .refused "Specify a payload to create, as in create scene-json."
  | bench => return .refused "Benchmarking is not available."
  | idle => return .done

end

end Mixdown
