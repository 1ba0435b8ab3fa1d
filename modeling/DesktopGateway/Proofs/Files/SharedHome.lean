import DesktopGateway.Proofs.Files.Opening
import DesktopGateway.Proofs.Files.Placement
import DesktopGateway.Proofs.Files.Response
import DesktopGateway.Proofs.Volume.Contents
import DesktopGateway.Proofs.Volume.Region

/-!
# Two volumes with the same home

What a client is told about a path, and what it is sent for it, depends on nothing outside the home
as long as the path stays inside: a walk along it may look outside only at what the home's own path
leads over, and it has to end at or below the home. Paths over names without links are of this kind.
Links lead out of the home, and a path over them shows what they lead to. A directory is packed in a
temporary file outside the home, for which there has to be room.
-/

namespace DesktopGateway.Files

open DesktopGateway.Serving
open DesktopGateway.Text
open DesktopGateway.Volume (Location Found)
open DesktopGateway.Wire

/-- Two volumes in which the path of the home leads over the same nodes to the same directory, with
the same entries below it. -/
structure SharedHome (home : String) (first second : Volume) : Prop where
  way : ∀ location ∈ first.pathTrail true (Utf8.encode home), Volume.AgreeAt first second location
  inside : ∀ root, first.directory (Utf8.encode home) = .ok root →
    second.region root = first.region root

/-- The path of a place stays inside the home, wherever links on it lead. -/
structure Confined (volume : Volume) (home : String) (place : Place) : Prop where
  trail : ∀ root, volume.directory (Utf8.encode home) = .ok root →
    ∀ location ∈ volume.pathTrail true place.bytes,
      root <+: location ∨ location ∈ volume.pathTrail true (Utf8.encode home)
  ends : ∀ root, volume.directory (Utf8.encode home) = .ok root →
    ∀ found, volume.find true place.bytes = .ok found → root <+: found.location

theorem confined_of_home {volume : Volume} {place : Place} (own : place.below = []) :
    Confined volume place.home place := by
  have same : place.bytes = Utf8.encode place.home := by
    rw [Place.bytes, Place.path, own]
    rfl
  constructor
  · intro root home location seen
    rw [same] at seen
    exact .inr seen
  · intro root home found ended
    obtain ⟨owner, mode, present⟩ := Volume.directory_eq_ok_iff.mp home
    rw [same, present] at ended
    cases ended
    exact List.prefix_rfl

/-- A path over names that are no links stays inside the home. -/
theorem confined_of_unlinked {volume : Volume} {place : Place} {root : Location}
    (home : volume.directory (Utf8.encode place.home) = .ok root)
    (plain : ∀ name ∈ place.below, IsName name) (unlinked : volume.Unlinked root place.names) :
    Confined volume place.home place := by
  by_cases inner : place.below = []
  · exact confined_of_home inner
  constructor
  · intro other same location seen
    rw [home] at same
    cases same
    exact place.mem_pathTrail_bytes inner plain home unlinked seen
  · intro other same found ended
    rw [home] at same
    cases same
    rw [place.location_of_find inner plain home unlinked ended]
    exact List.prefix_append ..

theorem Confined.prefix_of_directory {volume : Volume} {home : String} {place : Place}
    (confined : Confined volume home place) {root location : Location}
    (found : volume.directory (Utf8.encode home) = .ok root)
    (entered : volume.directory place.bytes = .ok location) : root <+: location := by
  obtain ⟨owner, mode, ended⟩ := Volume.directory_eq_ok_iff.mp entered
  exact confined.ends root found _ ended

/-! ## Looking at a place -/

/-- Nodes that show the same are of one kind and length. -/
theorem same_of_shown {first second : Volume} {node other : Volume.Node}
    (shown : second.shown other = first.shown node) :
    other.isDirectory = node.isDirectory ∧ second.nodeLength other = first.nodeLength node := by
  rw [← Volume.isDirectory_shown second, ← Volume.isDirectory_shown first,
    ← Volume.length_shown, ← Volume.length_shown, shown]
  exact ⟨rfl, rfl⟩

section Shared

variable {site : Site} {first second : Volume} (shared : SharedHome site.home first second)

include shared

theorem SharedHome.directory :
    second.directory (Utf8.encode site.home) = first.directory (Utf8.encode site.home) :=
  Volume.directory_congr shared.way

theorem SharedHome.resolve (path : String) :
    site.resolve second path = site.resolve first path := by
  have same : second.isDirectory (Utf8.encode site.home) =
      first.isDirectory (Utf8.encode site.home) := by
    rw [Bool.eq_iff_iff, Volume.isDirectory_eq_true_iff, Volume.isDirectory_eq_true_iff,
      shared.directory]
  unfold Site.resolve Confinement.resolve
  rw [same]

variable {place : Place} {root : Location}
  (home : first.directory (Utf8.encode site.home) = .ok root)
  (confined : Confined first site.home place)

include home confined

/-- Along a confined path, a walk sees no difference. -/
theorem SharedHome.agree :
    ∀ location ∈ first.pathTrail true place.bytes, Volume.AgreeAt first second location := by
  intro location seen
  rcases confined.trail root home location seen with below | above
  · exact Volume.agreeAt_of_region (shared.inside root home) below
  · exact shared.way location above

/-- A confined path leads to the same location, where the same is shown. -/
theorem SharedHome.findEntry :
    (∃ failure, first.findEntry true place.bytes = .error failure ∧
        second.findEntry true place.bytes = .error failure) ∨
      ∃ location node other, root <+: location ∧
        first.findEntry true place.bytes = .ok (location, node) ∧
        second.findEntry true place.bytes = .ok (location, other) ∧
        second.shown other = first.shown node := by
  have same := Volume.find_congr (shared.agree home confined)
  cases found : first.find true place.bytes with
  | error failure =>
      left
      refine ⟨failure, ?_, ?_⟩
      · rw [Volume.findEntry, found]
      · rw [Volume.findEntry, same, found]
        rfl
  | ok reached =>
      have below := confined.ends root home reached found
      have stored := Volume.stored?_of_region (shared.inside root home) below
      rw [found, Except.map] at same
      cases reached with
      | absent location =>
          left
          rw [Found.location] at stored same
          rw [Volume.stored?, Volume.stored?, (Volume.find_holds found).2, Option.map_none,
            Option.map_eq_none_iff] at stored
          refine ⟨.refused .noEntry, ?_, ?_⟩
          · rw [Volume.findEntry, found]
          · rw [Volume.findEntry, same, Found.at, stored]
      | entry location node =>
          right
          rw [Found.location] at stored same below
          rw [Volume.stored?, Volume.stored?,
            show first.node? location = some node from Volume.find_holds found,
            Option.map_some, Option.map_eq_some_iff] at stored
          obtain ⟨other, there, shown⟩ := stored
          refine ⟨location, node, other, below, ?_, ?_, shown⟩
          · rw [Volume.findEntry, found]
          · rw [Volume.findEntry, same, Found.at, there]

theorem SharedHome.metadata :
    (∃ failure, first.metadata place.bytes = .error failure ∧
        second.metadata place.bytes = .error failure) ∨
      ∃ looked other, first.metadata place.bytes = .ok looked ∧
        second.metadata place.bytes = .ok other ∧
        other.isDirectory = looked.isDirectory ∧ other.length = looked.length := by
  unfold Volume.metadata
  rcases shared.findEntry home confined with
    ⟨failure, before, after⟩ | ⟨location, node, other, below, before, after, shown⟩
  · rw [before, after]
    exact Or.inl ⟨failure, rfl, rfl⟩
  · rw [before, after]
    exact Or.inr ⟨_, _, rfl, rfl, same_of_shown shown⟩

end Shared

/-! ## Listings -/

namespace Item

/-- The item of what an entry shows. -/
def ofShown (entry : Volume.Name × Volume.Stored) : Item :=
  ⟨Utf8.lossy entry.1, entry.2.isDirectory, entry.2.length⟩

theorem ofEntry_eq (volume : Volume) (entry : Volume.Name × Volume.Node) :
    ofEntry volume entry = ofShown (entry.1, volume.shown entry.2) := by
  rw [ofShown, Volume.isDirectory_shown, Volume.length_shown]
  rfl

theorem map_ofEntry (volume : Volume) (entries : List (Volume.Name × Volume.Node)) :
    entries.map (ofEntry volume) =
      (entries.map fun entry => (entry.1, volume.shown entry.2)).map ofShown := by
  rw [List.map_map]
  exact List.map_congr_left fun entry _ => ofEntry_eq volume entry

end Item

section Shared

variable {site : Site} {first second : Volume} (shared : SharedHome site.home first second)
  {place : Place} {root : Location} (home : first.directory (Utf8.encode site.home) = .ok root)
  (confined : Confined first site.home place)

include shared home confined

theorem SharedHome.listing : Listing.ofPlace second place = Listing.ofPlace first place := by
  unfold Listing.ofPlace Volume.listing
  rw [Volume.directory_congr (shared.agree home confined)]
  rcases shared.metadata home confined with
    ⟨failure, before, after⟩ | ⟨looked, other, before, after, kind, length⟩
  · rw [before, after]
  · rw [before, after]
    simp only [kind, length]
    cases found : first.directory place.bytes with
    | error failure => rfl
    | ok directory =>
        have inside := confined.prefix_of_directory home found
        simp only [Except.map]
        rw [Item.map_ofEntry, Item.map_ofEntry,
          Volume.children_congr (shared.inside root home) inside]

end Shared

/-! ## Downloads -/

namespace Bundle

def Kind.ofShown : Volume.Stored → Kind
  | .file content => .regular content
  | .directory => .directory
  | .link target => .link target
  | .device _ => .device

theorem ofShown_shown (volume : Volume) (node : Volume.Node) :
    Kind.ofShown (volume.shown node) = kindOf volume node := by
  cases node <;> rfl

theorem map_kindOf (volume : Volume) (top : List UInt8) (entries : List (Location × Volume.Node)) :
    (entries.map fun (names, node) => Entry.mk (top ++ joined names) (kindOf volume node)) =
      (entries.map fun entry => (entry.1, volume.shown entry.2)).map
        fun entry => Entry.mk (top ++ joined entry.1) (.ofShown entry.2) := by
  rw [List.map_map]
  apply List.map_congr_left
  intro entry _
  rw [Function.comp_apply, ofShown_shown]

end Bundle

namespace Download

/-- What a client can tell of an open download: its size and the message that carries it. -/
def offer (opened : Download × Volume) : Nat × Parcel (List UInt8) :=
  (opened.1.size, opened.1.parcel opened.2)

def offerOf (name : String) (size : Nat) (read : Nat → List UInt8) : Nat × Parcel (List UInt8) :=
  (size, .fetchedFile name (ContentType.of (read ContentType.window)).name (Int64.ofNat size)
    (read size))

/-- A file is offered as it is. -/
theorem offer_file {site : Site} {volume : Volume} {path : String} {place : Place}
    {metadata : Volume.Metadata} (looked : volume.metadata place.bytes = .ok metadata)
    (plain : metadata.isDirectory = false) :
    (ofPlace site volume path place).map offer =
      (((volume.openFile place.bytes).map volume.read).mapError (.file path)).map
        (offerOf place.shownName metadata.length) := by
  unfold ofPlace
  rw [looked]
  simp only [plain, Bool.false_eq_true, if_false]
  cases volume.openFile place.bytes <;> rfl

def HasRoom (site : Site) (volume : Volume) : Prop :=
  ∃ location, volume.find true (temporaryPath site) = .ok (.absent location)

/-- Where there is room, a directory that can be bundled is packed into a file of its own. -/
theorem pack_of_room {site : Site} {volume : Volume} (room : HasRoom site volume)
    {path : List UInt8} {bundle : Bundle} (bundled : Bundle.gather volume path = .ok bundle) :
    ∃ packed number, pack site volume path = .ok (bundle, packed) ∧
      packed.openFile (temporaryPath site) = .ok (.file number) ∧
      packed.Holds number (site.archiver.pack bundle) := by
  obtain ⟨location, free⟩ := room
  obtain ⟨number, created, done, empty, opens⟩ :=
    Volume.createFile_of_absent free site.credentials
  refine ⟨_, number, ?_, ?_, empty.write _⟩
  · rw [pack, done, bundled]
    rfl
  · exact Volume.openFile_of_entries (Volume.entries_write ..) opens

theorem pack_of_error {site : Site} {volume : Volume} (room : HasRoom site volume)
    {path : List UInt8} {failure : Host.Failure}
    (unbundled : Bundle.gather volume path = .error failure) :
    pack site volume path = .error failure := by
  obtain ⟨location, free⟩ := room
  obtain ⟨number, created, done, _⟩ := Volume.createFile_of_absent free site.credentials
  rw [pack, done, unbundled]

/-- A directory is offered as the archive of its bundle. -/
theorem offer_directory {site : Site} {volume : Volume} (room : HasRoom site volume)
    {path : String} {place : Place} {metadata : Volume.Metadata}
    (looked : volume.metadata place.bytes = .ok metadata) (inner : metadata.isDirectory = true) :
    (ofPlace site volume path place).map offer =
      match Bundle.gather volume place.bytes with
      | .error failure => .error (.bundle s!"{path}: {failure.message}")
      | .ok bundle =>
          let packed := site.archiver.pack bundle
          .ok (offerOf bundle.name packed.length packed.take) := by
  unfold ofPlace
  rw [looked]
  simp only [inner, if_true]
  cases outcome : Bundle.gather volume place.bytes with
  | error failure =>
      rw [pack_of_error room outcome]
      rfl
  | ok bundle =>
      obtain ⟨packed, number, done, opens, holds⟩ := pack_of_room room outcome
      obtain ⟨owner, stored⟩ := holds.metadata opens
      rw [done]
      simp only [opens, stored, Except.map, offer, parcel, contentType, offerOf, holds.read]

end Download

section Shared

variable {site : Site} {first second : Volume} (shared : SharedHome site.home first second)
  {place : Place} {root : Location} (home : first.directory (Utf8.encode site.home) = .ok root)
  (confined : Confined first site.home place)

include shared home confined

theorem SharedHome.bundle :
    Bundle.gather second place.bytes = Bundle.gather first place.bytes := by
  unfold Bundle.gather
  rw [Volume.directory_congr (shared.agree home confined)]
  cases found : first.directory place.bytes with
  | error failure => rfl
  | ok directory =>
      have inside := confined.prefix_of_directory home found
      simp only
      rw [Bundle.map_kindOf, Bundle.map_kindOf,
        Volume.below_congr (shared.inside root home) inside]

theorem SharedHome.map_read_openFile :
    (second.openFile place.bytes).map second.read =
      (first.openFile place.bytes).map first.read := by
  rw [Volume.map_read_openFile, Volume.map_read_openFile]
  rcases shared.findEntry home confined with
    ⟨failure, before, after⟩ | ⟨location, node, other, below, before, after, shown⟩
  · rw [before, after]
    rfl
  · rw [before, after]
    exact congrArg Volume.Stored.reading shown

/-- What is offered for a confined place is the same, if directories can be packed. -/
theorem SharedHome.offer (path : String)
    (roomy : first.isDirectory place.bytes = true →
      Download.HasRoom site first ∧ Download.HasRoom site second) :
    (Download.ofPlace site second path place).map Download.offer =
      (Download.ofPlace site first path place).map Download.offer := by
  rcases shared.metadata home confined with
    ⟨failure, before, after⟩ | ⟨looked, other, before, after, kind, length⟩
  · rw [Download.ofPlace, Download.ofPlace, before, after]
  · cases inner : looked.isDirectory with
    | true =>
        have present : first.isDirectory place.bytes = true := by
          rw [Volume.isDirectory, before]
          exact inner
        obtain ⟨here, there⟩ := roomy present
        rw [Download.offer_directory here before inner,
          Download.offer_directory there after (kind.trans inner), shared.bundle home confined]
    | false =>
        rw [Download.offer_file before inner, Download.offer_file after (kind.trans inner),
          shared.map_read_openFile home confined, length]

end Shared

/-! ## Answers -/

namespace Download

def respond (exchange : Exchange) :
    Except Failure (Nat × Parcel (List UInt8)) → Except Failure Unit × Exchange
  | .error failure => exchange.refuse failure
  | .ok (size, parcel) =>
      if largest < size then exchange.refuse (.tooLarge size)
      else exchange.emit (Link.Endpoint.reply parcel)

/-- A client that asks for a path is sent what is offered for it. -/
theorem serve_eq_respond {site : Site} {volume : Volume} {exchange behind : Exchange}
    {path : String}
    (asked : exchange.readRequest .fetchRequest = (.ok (.fetchRequest path), behind)) :
    ((serve site volume exchange).1, (serve site volume exchange).2.1) =
      respond behind ((ofPath site volume path).map offer) := by
  unfold serve
  rw [asked]
  dsimp only
  cases ofPath site volume path with
  | error failure => rfl
  | ok opened => rfl

/-- Answers are the same when the offers for what is asked are. -/
theorem serve_congr {site : Site} {first second : Volume} {exchange : Exchange}
    (same : ∀ path, (exchange.readRequest .fetchRequest).1 = .ok (.fetchRequest path) →
      (ofPath site second path).map offer = (ofPath site first path).map offer) :
    (serve site second exchange).1 = (serve site first exchange).1 ∧
      (serve site second exchange).2.1 = (serve site first exchange).2.1 := by
  cases asked : exchange.readRequest .fetchRequest with
  | mk outcome behind =>
      rw [asked] at same
      cases outcome with
      | error failure =>
          rw [serve, serve, asked]
          exact ⟨rfl, rfl⟩
      | ok parcel =>
          cases parcel with
          | fetchRequest path =>
              rw [← Prod.mk.injEq, serve_eq_respond asked, serve_eq_respond asked, same path rfl]
          | _ =>
              rw [serve, serve, asked]
              exact ⟨rfl, rfl⟩

end Download

/-- Answers are the same when the listings of what is asked are. -/
theorem Listing.serve_congr {site : Site} {first second : Volume} {exchange : Exchange}
    (same : ∀ path, (exchange.readRequest .statRequest).1 = .ok (.statRequest path) →
      ofPath site second path = ofPath site first path) :
    serve site second exchange = serve site first exchange := by
  unfold serve
  cases asked : exchange.readRequest .statRequest with
  | mk outcome behind =>
      rw [asked] at same
      cases outcome with
      | error failure => rfl
      | ok parcel =>
          cases parcel with
          | statRequest path => simp only [same path rfl]
          | _ => rfl

def Asks (exchange : Exchange) (path : String) : Prop :=
  (exchange.readRequest .statRequest).1 = .ok (.statRequest path) ∨
    (exchange.readRequest .fetchRequest).1 = .ok (.fetchRequest path)

section Shared

variable {site : Site} {first second : Volume} (shared : SharedHome site.home first second)

include shared

theorem SharedHome.listing_ofPath {path : String}
    (confined : ∀ place, site.resolve first path = .ok place → Confined first site.home place) :
    Listing.ofPath site second path = Listing.ofPath site first path := by
  unfold Listing.ofPath
  rw [shared.resolve]
  cases resolved : site.resolve first path with
  | error failure => rfl
  | ok place =>
      obtain ⟨root, home⟩ := home_of_resolve resolved
      simp only [shared.listing home (confined place resolved)]

theorem SharedHome.offer_ofPath {path : String}
    (confined : ∀ place, site.resolve first path = .ok place → Confined first site.home place)
    (roomy : ∀ place, site.resolve first path = .ok place →
      first.isDirectory place.bytes = true →
        Download.HasRoom site first ∧ Download.HasRoom site second) :
    (Download.ofPath site second path).map Download.offer =
      (Download.ofPath site first path).map Download.offer := by
  unfold Download.ofPath
  rw [shared.resolve]
  cases resolved : site.resolve first path with
  | error failure => rfl
  | ok place =>
      obtain ⟨root, home⟩ := home_of_resolve resolved
      exact shared.offer home (confined place resolved) path (roomy place resolved)

/-- Whatever a client asks for, in two volumes with the same home:
* It is told the same about a path that stays inside the home.
* It is sent the same for such a path, be it a file or a directory, as long as there is room to pack
  a directory in both volumes.
* The home itself and all paths over names that are no links stay inside. -/
theorem served_alike {exchange : Exchange}
    (confined : ∀ path place, Asks exchange path → site.resolve first path = .ok place →
      Confined first site.home place) :
    Listing.serve site second exchange = Listing.serve site first exchange ∧
      ((∀ path place, Asks exchange path → site.resolve first path = .ok place →
          first.isDirectory place.bytes = true →
            Download.HasRoom site first ∧ Download.HasRoom site second) →
        (Download.serve site second exchange).1 = (Download.serve site first exchange).1 ∧
          (Download.serve site second exchange).2.1 =
            (Download.serve site first exchange).2.1) ∧
      ∀ path place root, site.resolve first path = .ok place →
        first.directory (Utf8.encode site.home) = .ok root →
        first.Unlinked root place.names → Confined first site.home place := by
  refine ⟨?_, ?_, ?_⟩
  · apply Listing.serve_congr
    intro path asked
    exact shared.listing_ofPath fun place => confined path place (.inl asked)
  · intro roomy
    apply Download.serve_congr
    intro path asked
    apply shared.offer_ofPath
    · exact fun place => confined path place (.inr asked)
    · exact fun place => roomy path place (.inr asked)
  · intro path place root resolved home unlinked
    have own := (Confinement.resolve_eq_ok resolved).1
    rw [← own] at home ⊢
    exact confined_of_unlinked home (plain_of_resolve resolved) unlinked

end Shared

/-! ## A home with two links -/

def linkedSite : Site :=
  ⟨"/h", ⟨Volume.superuser, true⟩, "/t", "x"⟩

def openDirectory : Volume.Node :=
  .directory Volume.superuser Volume.openMode

/-- The home `/h` has a file `a`, a link `k` to `/h/a` and a link `l` to `/x`. -/
def linkedVolume (outside : List (Location × Volume.Node)) : Volume :=
  ⟨[([[104]], openDirectory), ([[104], [97]], .file 0),
      ([[104], [107]], .link [47, 104, 47, 97]), ([[104], [108]], .link [47, 120])] ++ outside,
    [(0, ⟨.ofBytes [111, 108, 100], Volume.superuser⟩)]⟩

theorem directory_linked (outside : List (Location × Volume.Node)) :
    (linkedVolume outside).directory (Utf8.encode linkedSite.home) = .ok [[104]] := rfl

/-- The home is shared whatever stands outside. -/
theorem sharedHome_linked {outside others : List (Location × Volume.Node)}
    (same : (linkedVolume others).region [[104]] = (linkedVolume outside).region [[104]]) :
    SharedHome linkedSite.home (linkedVolume outside) (linkedVolume others) := by
  constructor
  · have trail : (linkedVolume outside).pathTrail true (Utf8.encode linkedSite.home) =
        [[], [[104]]] := rfl
    rw [trail]
    simp only [List.forall_mem_cons]
    exact ⟨rfl, rfl, nofun⟩
  · intro root found
    rw [directory_linked] at found
    cases found
    exact same

theorem confined_linked {outside : List (Location × Volume.Node)} {place : Place}
    {ended : Found}
    (trail : ∀ location ∈ (linkedVolume outside).pathTrail true place.bytes,
      [[104]] <+: location ∨ location = [])
    (found : (linkedVolume outside).find true place.bytes = .ok ended)
    (below : [[104]] <+: ended.location) :
    Confined (linkedVolume outside) linkedSite.home place := by
  constructor
  · intro root home location seen
    rw [directory_linked] at home
    cases home
    rcases trail location seen with inside | rfl
    · exact Or.inl inside
    · exact Or.inr (List.mem_cons_self ..)
  · intro root home other same
    rw [directory_linked] at home
    rw [found] at same
    cases home
    cases same
    exact below

/-- What stands at `/x` makes no difference to what is told about the link `k` and to the archive
of the home. -/
theorem served_alike_linked :
    let first := linkedVolume [([[116]], openDirectory), ([[120]], .file 0)]
    let second := linkedVolume [([[116]], openDirectory)]
    let telling := Exchange.new .stat [[107, 10]] true
    let sending := Exchange.new .fetch [[46, 10]] true
    Listing.serve linkedSite second telling = Listing.serve linkedSite first telling ∧
      (Download.serve linkedSite second sending).2.1 =
        (Download.serve linkedSite first sending).2.1 := by
  intro first second telling sending
  have shared : SharedHome linkedSite.home first second := sharedHome_linked (by decide)
  have link : Confined first linkedSite.home ⟨"/h", ["k"]⟩ :=
    confined_linked (by decide) rfl (by decide)
  have whole : Confined first linkedSite.home ⟨"/h", []⟩ :=
    confined_linked (by decide) rfl (by decide)
  constructor
  · refine (served_alike shared ?_).1
    rintro path place (asked | asked) resolved
    · cases asked
      cases resolved
      exact link
    · cases asked
  · refine ((served_alike shared ?_).2.1 ?_).2
    · rintro path place (asked | asked) resolved
      · cases asked
      · cases asked
        cases resolved
        exact whole
    · intro path place asked resolved inner
      exact ⟨⟨_, rfl⟩, ⟨_, rfl⟩⟩

/-- What stands at `/x`, and whether there is a directory `/t` for temporary files, shows in the
answers, although the home is the same. -/
theorem answers_differ_outside :
    let present := linkedVolume [([[120]], .file 0)]
    let roomy := linkedVolume [([[116]], openDirectory)]
    let missing := linkedVolume []
    let telling := Exchange.new .stat [[108, 10]] true
    let sending := Exchange.new .fetch [[108, 10]] true
    let packing := Exchange.new .fetch [[46, 10]] true
    SharedHome linkedSite.home present missing ∧ SharedHome linkedSite.home roomy missing ∧
      (Listing.serve linkedSite missing telling).2.sent ≠
        (Listing.serve linkedSite present telling).2.sent ∧
      (Download.serve linkedSite missing sending).2.1.sent ≠
        (Download.serve linkedSite present sending).2.1.sent ∧
      (Download.serve linkedSite missing packing).2.1.sent ≠
        (Download.serve linkedSite roomy packing).2.1.sent := by
  intro present roomy missing telling sending packing
  refine ⟨sharedHome_linked (by decide), sharedHome_linked (by decide), ?_, ?_, ?_⟩
  · exact @sent_ne_of_verdict .listing linkedSite missing present telling rfl rfl (by decide)
  · exact @sent_ne_of_verdict .download linkedSite missing present sending rfl rfl (by decide)
  · exact @sent_ne_of_verdict .download linkedSite missing roomy packing rfl rfl
      (by decide +kernel)

end DesktopGateway.Files
