import DesktopGateway.Sound.Preferences
import DesktopGateway.Text.Blank
import DesktopGateway.Text.Upper

/-!
# Media graphs

A graph is a chain of elements, written with exclamation marks between them. The program that runs
it takes the words of that description as its arguments.
-/

namespace DesktopGateway.Sound

open DesktopGateway.Text

def graphProgram : String := "gst-launch-1.0"

inductive Element where
  | plain (description : String)
  | rawFormat (format : String) (channels rate : UInt32)
  | soundServer (address device : String)
  | descriptorSource (descriptor : UInt32) (stamped : Bool)
  | descriptorSink (descriptor : UInt32)
  | fileSink (file : String) (append : Bool)
  deriving DecidableEq, Repr

def Element.description : Element → String
  | plain description => description
  | rawFormat format channels rate =>
      s!"audio/x-raw, format={Upper.ofString format}, channels={channels}, rate={rate}"
  | soundServer address device => s!"pulsesrc server={address} device={device}"
  | descriptorSource descriptor stamped => s!"fdsrc fd={descriptor} do-timestamp={stamped}"
  | descriptorSink descriptor => s!"fdsink fd={descriptor}"
  | fileSink file append => s!"filesink append={append} location={file}"

structure Graph where
  elements : List Element
  deriving DecidableEq, Repr

namespace Graph

def description (graph : Graph) : String :=
  String.intercalate " ! " (graph.elements.map Element.description)

def arguments (graph : Graph) : List String :=
  "-q" :: Blank.words graph.description

/-- A sound server's device as the source, with its format. -/
def serverSource (address device : String) (channels rate : UInt32) : List Element :=
  [.soundServer address device, .rawFormat "s16le" channels rate]

/-- From a device of the sound server to coded sound on the output. -/
def playback (address monitor : String) (channels rate : UInt32) : Graph :=
  ⟨serverSource address monitor channels rate ++
    [.plain "cutter", .plain "opusenc", .plain "webmmux", .descriptorSink 1]⟩

/-- From coded sound on the input to raw sound in the microphone's pipe. -/
def recording (fifo format : String) (channels rate : UInt32) : Graph :=
  ⟨[.descriptorSource 0 false, .plain "decodebin", .plain "audioconvert",
    .plain "audioresample", .rawFormat format channels rate, .fileSink fifo true]⟩

def playbackFor (preferences : Preferences) (user : UInt32) : Graph :=
  playback (preferences.serverFor user) preferences.monitor preferences.playbackChannels
    preferences.playbackRate

def recordingFor (preferences : Preferences) (user : UInt32) : Graph :=
  recording (preferences.fifoFor user) preferences.recordingFormat preferences.recordingChannels
    preferences.recordingRate

end Graph

end DesktopGateway.Sound
