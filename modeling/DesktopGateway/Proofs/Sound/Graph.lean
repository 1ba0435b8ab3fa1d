import DesktopGateway.Proofs.Text.Upper
import DesktopGateway.Sound.Preparation
import DesktopGateway.Sound.Session

/-!
# The words of a graph

The arguments of a graph are the words of its elements with an exclamation mark between the
elements. A text of the preferences is therefore a part of one argument exactly if it has no white
space; one that has white space is taken apart, and brings its own exclamation marks with it. The
commands to the sound server get the same texts as a whole.
-/

namespace DesktopGateway.Sound

open DesktopGateway.Host
open DesktopGateway.Text
open DesktopGateway.Text.Blank

/-! ## Words between marks -/

theorem mem_intercalate {word : String} {mark : List String} {part : List String}
    {parts : List (List String)} (listed : part ∈ parts) (member : word ∈ part) :
    word ∈ mark.intercalate parts := by
  induction parts with
  | nil => cases listed
  | cons first parts ih =>
      cases parts with
      | nil =>
          rw [List.mem_singleton] at listed
          rw [List.intercalate_singleton, ← listed]
          exact member
      | cons second parts =>
          rw [List.intercalate_cons_cons, List.mem_append, List.mem_append]
          obtain rfl | later := List.mem_cons.mp listed
          · exact Or.inl (Or.inl member)
          · exact Or.inr (ih later)

theorem count_intercalate (mark : String) (first : List String) (parts : List (List String)) :
    ([mark].intercalate (first :: parts)).count mark =
      parts.length + (first :: parts).flatten.count mark := by
  induction parts generalizing first with
  | nil => simp
  | cons second parts ih =>
      have marks : (first :: second :: parts).flatten.count mark =
          first.count mark + (second :: parts).flatten.count mark := List.count_append ..
      rw [List.intercalate_cons_cons, List.count_append, List.count_append, ih second, marks,
        List.count_singleton_self, List.length_cons]
      omega

/-! ## Settings -/

/-- A setting is one word if its text has no white space. -/
theorem words_setting {name text : String} (plain : Unbroken name) (filled : name ≠ "")
    (unbroken : Unbroken text) : words (name ++ text) = [name ++ text] :=
  words_unbroken (unbroken_append.mpr ⟨plain, unbroken⟩) fun empty =>
    filled (String.append_eq_empty_iff.mp empty).1

/-- A text that begins otherwise is no exclamation mark. -/
theorem setting_ne_mark (name text : String) (filled : name ≠ "")
    (other : name.toList.head? ≠ some '!') : name ++ text ≠ "!" := by
  intro same
  have spelt : name.toList ++ text.toList = ['!'] := by
    rw [← String.toList_append, same]
    rfl
  cases letters : name.toList with
  | nil => exact filled (String.toList_eq_nil_iff.mp letters)
  | cons first later =>
      rw [letters, List.cons_append, List.cons.injEq] at spelt
      rw [letters, spelt.1] at other
      exact other rfl

theorem count_words_setting {name text : String} (plain : Unbroken name) (filled : name ≠ "")
    (other : name.toList.head? ≠ some '!') (unbroken : Unbroken text) :
    (words (name ++ text)).count "!" = 0 := by
  rw [words_setting plain filled unbroken, List.count_singleton]
  exact if_neg fun same => setting_ne_mark name text filled other (beq_iff_eq.mp same)

namespace Element

theorem words_rawFormat (format : String) (channels rate : UInt32) :
    words (rawFormat format channels rate).description =
      "audio/x-raw," :: (words ("format=" ++ (Upper.ofString format ++ ",")) ++
        ["channels=" ++ (toString channels ++ ","), "rate=" ++ toString rate]) := by
  have front : "audio/x-raw, format=" = "audio/x-raw," ++ " " ++ "format=" := by decide
  have second : ", channels=" = "," ++ " " ++ "channels=" := by decide
  have third : ", rate=" = "," ++ " " ++ "rate=" := by decide
  have spaced : (rawFormat format channels rate).description =
      "audio/x-raw," ++ " " ++ ("format=" ++ (Upper.ofString format ++ ",") ++ " " ++
        ("channels=" ++ (toString channels ++ ",") ++ " " ++ ("rate=" ++ toString rate))) := by
    change "audio/x-raw, format=" ++ Upper.ofString format ++ ", channels=" ++ toString channels ++
      ", rate=" ++ toString rate = _
    rw [front, second, third]
    simp only [String.append_assoc]
  have counted : Unbroken (toString channels ++ ",") :=
    unbroken_append.mpr ⟨unbroken_toString channels, by decide⟩
  have start : words "audio/x-raw," = ["audio/x-raw,"] := by decide
  rw [spaced, words_append_blank, words_append_blank, words_append_blank, start,
    words_setting (by decide) (by decide) counted,
    words_setting (by decide) (by decide) (unbroken_toString rate), List.singleton_append,
    List.singleton_append]

theorem words_soundServer (address device : String) :
    words (soundServer address device).description =
      "pulsesrc" :: (words ("server=" ++ address) ++ words ("device=" ++ device)) := by
  have front : "pulsesrc server=" = "pulsesrc" ++ " " ++ "server=" := by decide
  have second : " device=" = " " ++ "device=" := by decide
  have spaced : (soundServer address device).description =
      "pulsesrc" ++ " " ++ ("server=" ++ address ++ " " ++ ("device=" ++ device)) := by
    change "pulsesrc server=" ++ address ++ " device=" ++ device = _
    rw [front, second]
    simp only [String.append_assoc]
  rw [spaced, words_append_blank, words_append_blank]
  rfl

theorem words_fileSink (file : String) :
    words (fileSink file true).description =
      ["filesink", "append=true"] ++ words ("location=" ++ file) := by
  have front : "filesink append=" ++ toString true ++ " location=" =
      "filesink append=true" ++ " " ++ "location=" := by decide
  have spaced : (fileSink file true).description =
      "filesink append=true" ++ " " ++ ("location=" ++ file) := by
    change "filesink append=" ++ toString true ++ " location=" ++ file = _
    rw [front, String.append_assoc]
  rw [spaced, words_append_blank]
  rfl

/-- How many exclamation marks are words of an element. -/
def marks (element : Element) : Nat :=
  (words element.description).count "!"

theorem marks_rawFormat (format : String) (channels rate : UInt32) :
    (rawFormat format channels rate).marks =
      (words ("format=" ++ (Upper.ofString format ++ ","))).count "!" := by
  have channelled := setting_ne_mark "channels=" (toString channels ++ ",") (by decide)
    (by decide)
  have rated := setting_ne_mark "rate=" (toString rate) (by decide) (by decide)
  rw [marks, words_rawFormat, List.count_cons_of_ne (by decide), List.count_append,
    List.count_cons_of_ne channelled, List.count_cons_of_ne rated, List.count_nil, Nat.add_zero]

theorem marks_soundServer (address device : String) :
    (soundServer address device).marks =
      (words ("server=" ++ address)).count "!" + (words ("device=" ++ device)).count "!" := by
  rw [marks, words_soundServer, List.count_cons_of_ne (by decide), List.count_append]

theorem marks_fileSink (file : String) :
    (fileSink file true).marks = (words ("location=" ++ file)).count "!" := by
  have front : ["filesink", "append=true"].count "!" = 0 := by decide
  rw [marks, words_fileSink, List.count_append, front, Nat.zero_add]

def marksOf (elements : List Element) : Nat :=
  (elements.flatMap fun element => words element.description).count "!"

theorem marksOf_cons (element : Element) (elements : List Element) :
    marksOf (element :: elements) = element.marks + marksOf elements := by
  rw [marksOf, List.flatMap_cons, List.count_append, ← marks, ← marksOf]

theorem marksOf_append (front back : List Element) :
    marksOf (front ++ back) = marksOf front + marksOf back := by
  rw [marksOf, List.flatMap_append, List.count_append, ← marksOf, ← marksOf]

end Element

namespace Graph

theorem arguments_eq (graph : Graph) :
    graph.arguments =
      "-q" :: ["!"].intercalate (graph.elements.map fun element => words element.description) := by
  have parted := words_intercalate "!" (graph.elements.map Element.description)
  rw [List.map_map] at parted
  exact congrArg (List.cons "-q") parted

/-- No argument has white space in it. -/
theorem unbroken_of_mem_arguments {graph : Graph} {word : String}
    (member : word ∈ graph.arguments) : Unbroken word := by
  obtain rfl | among := List.mem_cons.mp member
  · decide
  · exact unbroken_of_mem_words among

/-- What is a word of one element is an argument of the graph. -/
theorem mem_arguments {graph : Graph} {element : Element} {word : String}
    (listed : element ∈ graph.elements) (member : word ∈ words element.description) :
    word ∈ graph.arguments := by
  rw [arguments_eq]
  exact List.mem_cons_of_mem _ (mem_intercalate (List.mem_map_of_mem listed) member)

/-- There is one mark between two elements, and there are those that the elements bring along. -/
theorem count_arguments (first : Element) (later : List Element) :
    (Graph.mk (first :: later)).arguments.count "!" =
      later.length + Element.marksOf (first :: later) := by
  rw [arguments_eq, List.count_cons_of_ne (by decide), List.map_cons, count_intercalate,
    List.length_map]
  rfl

theorem count_playback (address monitor : String) (channels rate : UInt32) :
    (playback address monitor channels rate).arguments.count "!" =
      5 + ((words ("server=" ++ address)).count "!" +
        (words ("device=" ++ monitor)).count "!") := by
  have format : (Element.rawFormat "s16le" channels rate).marks = 0 := by
    rw [Element.marks_rawFormat]
    decide +kernel
  have rest : Element.marksOf [.plain "cutter", .plain "opusenc", .plain "webmmux",
      .descriptorSink 1] = 0 := by
    decide +kernel
  have counted := count_arguments (.soundServer address monitor)
    (.rawFormat "s16le" channels rate :: [.plain "cutter", .plain "opusenc", .plain "webmmux",
      .descriptorSink 1])
  rw [Element.marksOf_cons, Element.marksOf_cons, rest, format, Element.marks_soundServer]
    at counted
  exact counted

theorem count_recording (fifo format : String) (channels rate : UInt32) :
    (recording fifo format channels rate).arguments.count "!" =
      5 + ((words ("format=" ++ (Upper.ofString format ++ ","))).count "!" +
        (words ("location=" ++ fifo)).count "!") := by
  have front : Element.marksOf [.descriptorSource 0 false, .plain "decodebin",
      .plain "audioconvert", .plain "audioresample"] = 0 := by
    decide +kernel
  have none : Element.marksOf [] = 0 := rfl
  have counted : (recording fifo format channels rate).arguments.count "!" =
      5 + Element.marksOf ([.descriptorSource 0 false, .plain "decodebin", .plain "audioconvert",
        .plain "audioresample"] ++ [.rawFormat format channels rate, .fileSink fifo true]) :=
    count_arguments _ _
  rw [Element.marksOf_append, front, Element.marksOf_cons, Element.marksOf_cons, none,
    Element.marks_rawFormat, Element.marks_fileSink, Nat.zero_add, Nat.add_zero] at counted
  exact counted

/-! ## Settings as arguments -/

theorem location_mem_iff (fifo format : String) (channels rate : UInt32) :
    "location=" ++ fifo ∈ (recording fifo format channels rate).arguments ↔ Unbroken fifo := by
  constructor
  · exact fun member => (unbroken_append.mp (unbroken_of_mem_arguments member)).2
  · intro unbroken
    have listed : Element.fileSink fifo true ∈ (recording fifo format channels rate).elements := by
      simp [recording]
    refine mem_arguments listed ?_
    rw [Element.words_fileSink, words_setting (by decide) (by decide) unbroken]
    exact List.mem_append_right _ (List.mem_singleton_self _)

theorem soundServer_mem (address monitor : String) (channels rate : UInt32) :
    Element.soundServer address monitor ∈
      (playback address monitor channels rate).elements :=
  List.mem_cons_self ..

theorem server_mem_iff (address monitor : String) (channels rate : UInt32) :
    "server=" ++ address ∈ (playback address monitor channels rate).arguments ↔
      Unbroken address := by
  constructor
  · exact fun member => (unbroken_append.mp (unbroken_of_mem_arguments member)).2
  · intro unbroken
    refine mem_arguments (soundServer_mem address monitor channels rate) ?_
    rw [Element.words_soundServer, words_setting (by decide) (by decide) unbroken]
    exact List.mem_cons_of_mem _ (List.mem_append_left _ (List.mem_singleton_self _))

theorem device_mem_iff (address monitor : String) (channels rate : UInt32) :
    "device=" ++ monitor ∈ (playback address monitor channels rate).arguments ↔
      Unbroken monitor := by
  constructor
  · exact fun member => (unbroken_append.mp (unbroken_of_mem_arguments member)).2
  · intro unbroken
    refine mem_arguments (soundServer_mem address monitor channels rate) ?_
    have whole : words ("device=" ++ monitor) = ["device=" ++ monitor] :=
      words_setting (by decide) (by decide) unbroken
    rw [Element.words_soundServer, whole]
    exact List.mem_cons_of_mem _ (List.mem_append_right _ (List.mem_singleton_self _))

/-- Texts without white space bring no marks into the graph that plays. -/
theorem count_playback_of_unbroken {address monitor : String} (channels rate : UInt32)
    (whole : Unbroken address) (one : Unbroken monitor) :
    (playback address monitor channels rate).arguments.count "!" = 5 := by
  rw [count_playback, count_words_setting (by decide) (by decide) (by decide) whole,
    count_words_setting (by decide) (by decide) (by decide) one]

theorem count_recording_of_unbroken {fifo format : String} (channels rate : UInt32)
    (whole : Unbroken fifo) (one : Unbroken format) :
    (recording fifo format channels rate).arguments.count "!" = 5 := by
  have spelt : Unbroken (Upper.ofString format ++ ",") :=
    unbroken_append.mpr ⟨Upper.unbroken_ofString one, by decide⟩
  rw [count_recording, count_words_setting (by decide) (by decide) (by decide) whole,
    count_words_setting (by decide) (by decide) (by decide) spelt]

end Graph

theorem Running.arguments_of_start {graph : Graph} {inputOpen : Bool}
    {host : Except Host.Failure Conduct} {running : Running}
    (started : Running.start graph inputOpen host = .ok running) :
    running.arguments = graph.arguments := by
  unfold Running.start at started
  dsimp only at started
  split at started
  · cases started
  · cases host with
    | error failure => cases started
    | ok conduct =>
        cases started
        rfl

/-- A session that starts runs the graphs of its preferences. -/
theorem Session.arguments_of_start {preferences : Preferences} {user : UInt32}
    {playing recording : Except Host.Failure Conduct} {session : Session}
    (started : Session.start preferences user playing recording = .ok session) :
    session.playback.arguments = (Graph.playbackFor preferences user).arguments ∧
      session.recording.arguments = (Graph.recordingFor preferences user).arguments := by
  simp only [Session.start] at started
  cases first : Running.start (Graph.playbackFor preferences user) false playing with
  | error failure =>
      rw [first] at started
      cases started
  | ok playback =>
      cases second : Running.start (Graph.recordingFor preferences user) true recording with
      | error failure =>
          rw [first, second] at started
          cases started
      | ok recorder =>
          rw [first, second] at started
          cases started
          exact ⟨Running.arguments_of_start first, Running.arguments_of_start second⟩

/-- What the sound server's commands and the graphs of a user get from the preferences. -/
structure SameTexts (preferences : Preferences) (user : UInt32) : Prop where
  /-- The commands get each text as a part of one argument. -/
  orders : ∀ shell, (Preparation.new preferences user shell).orders =
    Devices.orders preferences (preferences.fifoFor user)
  file : "file=" ++ preferences.fifoFor user ∈
    Devices.recordingModule preferences (preferences.fifoFor user)
  sink : "sink_name=" ++ preferences.playbackDevice ∈ Devices.playbackModule preferences
  /-- The programs of a session get the arguments of its graphs. -/
  programs : ∀ playing recording session,
    Session.start preferences user playing recording = .ok session →
      session.playback.arguments = (Graph.playbackFor preferences user).arguments ∧
      session.recording.arguments = (Graph.recordingFor preferences user).arguments
  /-- There a text is a part of one argument exactly if it has no white space. -/
  location : "location=" ++ preferences.fifoFor user ∈
    (Graph.recordingFor preferences user).arguments ↔ Unbroken (preferences.fifoFor user)
  server : "server=" ++ preferences.serverFor user ∈
    (Graph.playbackFor preferences user).arguments ↔ Unbroken (preferences.serverFor user)
  device : "device=" ++ (preferences.playbackDevice ++ ".monitor") ∈
    (Graph.playbackFor preferences user).arguments ↔ Unbroken preferences.playbackDevice
  /-- The marks are those between the elements and the words of the texts that are marks. -/
  playing : (Graph.playbackFor preferences user).arguments.count "!" + 1 =
    (Graph.playbackFor preferences user).elements.length +
      ((words ("server=" ++ preferences.serverFor user)).count "!" +
        (words ("device=" ++ (preferences.playbackDevice ++ ".monitor"))).count "!")
  recording : (Graph.recordingFor preferences user).arguments.count "!" + 1 =
    (Graph.recordingFor preferences user).elements.length +
      ((words ("format=" ++ (Upper.ofString preferences.recordingFormat ++ ","))).count "!" +
        (words ("location=" ++ preferences.fifoFor user)).count "!")
  /-- Texts without white space add and split no elements. -/
  playing_whole : Unbroken (preferences.serverFor user) → Unbroken preferences.playbackDevice →
    (Graph.playbackFor preferences user).arguments.count "!" + 1 =
      (Graph.playbackFor preferences user).elements.length
  recording_whole : Unbroken (preferences.fifoFor user) → Unbroken preferences.recordingFormat →
    (Graph.recordingFor preferences user).arguments.count "!" + 1 =
      (Graph.recordingFor preferences user).elements.length

theorem same_texts (preferences : Preferences) (user : UInt32) :
    SameTexts preferences user where
  orders _ := rfl
  file := by
    change "file=" ++ preferences.fifoFor user ∈
      [_, _, _, _, "file=" ++ preferences.fifoFor user, _, _, _]
    simp
  sink := by
    change "sink_name=" ++ preferences.playbackDevice ∈
      [_, _, "sink_name=" ++ preferences.playbackDevice, _]
    simp
  programs _ _ _ := Session.arguments_of_start
  location := Graph.location_mem_iff ..
  server := Graph.server_mem_iff ..
  device := by
    have whole : Unbroken (preferences.playbackDevice ++ ".monitor") ↔
        Unbroken preferences.playbackDevice :=
      unbroken_append.trans (and_iff_left (by decide))
    exact (Graph.device_mem_iff ..).trans whole
  playing := by
    rw [Graph.playbackFor, Graph.count_playback]
    exact Nat.add_right_comm ..
  recording := by
    rw [Graph.recordingFor, Graph.count_recording]
    exact Nat.add_right_comm ..
  playing_whole server device := by
    have monitored : Unbroken preferences.monitor :=
      unbroken_append.mpr ⟨device, by decide⟩
    rw [Graph.playbackFor, Graph.count_playback_of_unbroken _ _ server monitored]
    rfl
  recording_whole fifo format := by
    rw [Graph.recordingFor, Graph.count_recording_of_unbroken _ _ fifo format]
    rfl

/-- Preferences that name a pipe with white space in its name. -/
def Preferences.spaced : Preferences := { recordingFifo := some "/tmp/a ! b" }

/-- The name is no single argument, and a mark in it adds an element. -/
theorem spaced_fifo_is_split :
    "location=" ++ Preferences.spaced.fifoFor 1000 ∉
        (Graph.recordingFor Preferences.spaced 1000).arguments ∧
      (Graph.recordingFor Preferences.spaced 1000).arguments.count "!" + 1 ≠
        (Graph.recordingFor Preferences.spaced 1000).elements.length := by
  decide +kernel

end DesktopGateway.Sound
