/-
The device that is asked and the device that is meant.

A query is answered by one device. Its modes are modes of the device with the identifier of
the camera as long as that is the device asked.
-/

import CameraRs.Negotiation.Device

namespace CameraRs.Negotiation

variable {rateDelta : FrameRate → FrameRate → Nat} {c c' : Camera} {world : Arrangement}
  {id : String} {device : Device} {entry : Attached}

namespace Camera

def asked (c : Camera) : Option Device :=
  match c.source with
  | .synthetic => some .synthetic
  | .custom device => device
  | .native backend camera =>
      if backend = .mediaFoundation ∨ backend = .uvc then
        camera.bind fun camera => camera.handle.or (c.world.numbered c.index)
      else c.world.numbered c.index

def addressed (c : Camera) : Option Device :=
  match c.source with
  | .synthetic => some .synthetic
  | _ => c.world.named c.native

def AsksNamed (c : Camera) : Prop := ∀ device, c.asked = some device → c.addressed = some device

/-- A synthetic source offers one mode and makes whatever is requested. -/
def Offers (c : Camera) (request : CaptureRequest) : Prop :=
  match c.source with
  | .synthetic => request.width = 640 ∧ request.height = 480 ∧ request.preferredFps = .standard
  | _ => True

/-- Whatever `capabilities` returns and `start` tries, the device meant has reported. -/
structure OwnModes (rateDelta : FrameRate → FrameRate → Nat) (c : Camera) : Prop where
  returned : ∀ answer, c.capabilities = .ok answer →
    (∀ mode ∈ answer.modes, ∃ device, c.addressed = some device ∧ device.ReportsMode mode) ∧
      ∀ range ∈ answer.captureModeRanges,
        ∃ device, c.addressed = some device ∧ device.ReportsRange range
  tried : ∀ request results, c.Offers request → ∀ config ∈ c.tries rateDelta request results,
    ∃ device, c.addressed = some device ∧ device.ReportsConfig config

end Camera

/-! ### Answers come from the device asked -/

def Device.Gave (device : Device) (answer : DeviceCapabilities) : Prop :=
  (∀ mode ∈ answer.modes, device.ReportsMode mode) ∧
    ∀ range ∈ answer.captureModeRanges, device.ReportsRange range

theorem Device.gave_listed {access : CameraResult Unit} {configs : List CameraConfig}
    {ranges : List CaptureModeRange} {supports : CameraConfig → CameraResult Bool} :
    ∀ mode ∈ (DeviceCapabilities.fromConfigurations configs).modes,
      (Device.native access configs ranges supports).ReportsMode mode := by
  intro mode there
  obtain ⟨config, listed, made⟩ := List.mem_filterMap.mp there
  refine ⟨config, listed, ?_⟩
  cases result : CaptureMode.fromConfig config with
  | error e => simp [result, Except.toOption] at made
  | ok mode' =>
      simp only [result, Except.toOption, Option.some.injEq] at made
      rw [made]

theorem Device.gave_opened {answer : DeviceCapabilities}
    (answered : device.openedDeviceCapabilities = .ok answer) : device.Gave answer := by
  cases device with
  | native access configs ranges supports =>
      obtain rfl := Except.ok.inj answered
      exact ⟨gave_listed, fun range none => by contradiction⟩
  | custom described =>
      exact ⟨fun mode there => ⟨answer, answered, there⟩,
        fun range there => ⟨answer, answered, there⟩⟩

theorem getDeviceCapabilities_gave {backend : BackendType} {index : Nat}
    {answer : DeviceCapabilities}
    (answered : getDeviceCapabilities world backend index = .ok answer) :
    ∃ device, world.numbered index = some device ∧ device.Gave answer := by
  unfold getDeviceCapabilities at answered
  split at answered
  · next access configs ranges supports there =>
      refine ⟨_, there, ?_⟩
      cases access with
      | error e => simp [bind, Except.bind] at answered
      | ok _ =>
          simp only [bind, Except.bind, pure, Except.pure, Except.ok.injEq] at answered
          split at answered
          · subst answered
            constructor
            · rw [DeviceCapabilities.modes_withRanges]
              exact Device.gave_listed
            · rw [DeviceCapabilities.ranges_withRanges rfl]
              exact fun range there => there
          · subst answered
            exact ⟨Device.gave_listed, fun range none => by contradiction⟩
  · contradiction

private theorem probeEach_supported {supports : CameraConfig → CameraResult Bool}
    {configs requested : List CameraConfig} (probed : probeEach supports configs = .ok requested)
    {config : CameraConfig} (there : config ∈ requested) : supports config = .ok true := by
  induction configs generalizing requested with
  | nil =>
      obtain rfl := Except.ok.inj probed
      contradiction
  | cons first rest ih =>
      simp only [probeEach] at probed
      cases answer : isConfigSupported supports first with
      | error e => simp [answer, bind, Except.bind] at probed
      | ok supported =>
          cases later : probeEach supports rest with
          | error e => simp [answer, later, bind, Except.bind] at probed
          | ok others =>
              simp only [answer, later, bind, Except.bind, pure, Except.pure, Except.ok.injEq]
                at probed
              cases supported with
              | false =>
                  simp only [Bool.false_eq_true, if_false] at probed
                  exact ih later (probed ▸ there)
              | true =>
                  simp only [if_true] at probed
                  subst probed
                  rcases List.mem_cons.mp there with rfl | beyond
                  · unfold isConfigSupported at answer
                    split at answer
                    · exact answer
                    · simp at answer
                  · exact ih later beyond

private theorem requestedConfigs_supported {backend : BackendType} {index : Nat}
    {request : CaptureRequest} {advertised requested : List CameraConfig}
    (answered : requestedConfigs world backend index request advertised = .ok requested)
    {config : CameraConfig} (there : config ∈ requested) :
    ∃ device, world.numbered index = some device ∧ device.ReportsConfig config := by
  simp only [requestedConfigs] at answered
  split at answered
  · split at answered
    · next access configs ranges supports found =>
        exact ⟨_, found, .inr ⟨_, _, _, _, rfl, probeEach_supported answered there⟩⟩
    · contradiction
  · obtain rfl := Except.ok.inj answered
    contradiction

theorem Device.Gave.configuration {answer : DeviceCapabilities} (gave : device.Gave answer)
    {configs : List CameraConfig} (made : answer.configurations = .ok configs)
    {config : CameraConfig} (there : config ∈ configs) : device.ReportsConfig config := by
  obtain ⟨mode, listed, same⟩ := DeviceCapabilities.configurations_listed made there
  exact .inl ⟨mode, gave.1 mode listed, same⟩

namespace Camera

theorem external_gave {answer : DeviceCapabilities}
    (answered : c.externalCapabilities = .ok (some answer)) :
    ∃ device, c.asked = some device ∧ device.Gave answer := by
  have opened : ∀ {device : Device},
      device.openedDeviceCapabilities.map some = .ok (some answer) → device.Gave answer := by
    intro device mapped
    cases described : device.openedDeviceCapabilities with
    | error e => simp [described, Except.map] at mapped
    | ok given =>
        simp only [described, Except.map, Except.ok.injEq, Option.some.injEq] at mapped
        exact Device.gave_opened (mapped ▸ described)
  unfold externalCapabilities at answered
  split at answered
  · next camera source =>
      cases camera with
      | none => simp [current, bind, Except.bind] at answered
      | some camera =>
          simp only [current, bind, Except.bind] at answered
          split at answered
          · next device handle => exact ⟨device, by simp [asked, source, handle], opened answered⟩
          · simp at answered
  · next camera source =>
      cases camera with
      | none => simp [current, bind, Except.bind] at answered
      | some camera =>
          simp only [current, bind, Except.bind] at answered
          split at answered
          · next device handle => exact ⟨device, by simp [asked, source, handle], opened answered⟩
          · simp at answered
  · next device source => exact ⟨device, by simp [asked, source], opened answered⟩
  · contradiction
  · simp at answered

theorem asked_of_external_none {backend : BackendType} {camera : Option BackendCamera}
    (source : c.source = .native backend camera) (external : c.externalCapabilities = .ok none) :
    c.asked = c.world.numbered c.index := by
  simp only [asked, source]
  split
  · next either =>
      have unheld : ∀ held, camera = some held → held.handle = none := by
        intro held there
        subst there
        cases handle : held.handle with
        | none => rfl
        | some device =>
            rcases either with rfl | rfl <;>
              simp only [externalCapabilities, source, current, bind, Except.bind, handle]
                at external <;>
              cases described : device.openedDeviceCapabilities <;>
                simp [described, Except.map] at external
      cases camera with
      | none =>
          rcases either with rfl | rfl <;>
            simp [externalCapabilities, source, current, bind, Except.bind] at external
      | some held => simp [unheld held rfl]
  · rfl

private theorem capabilities_gave {answer : DeviceCapabilities}
    (answered : c.capabilities = .ok answer) :
    ∃ device, c.asked = some device ∧ device.Gave answer := by
  unfold capabilities at answered
  split at answered
  · contradiction
  · split at answered
    · next source =>
        obtain rfl := Except.ok.inj answered
        exact ⟨.synthetic, by simp [asked, source], Device.gave_opened rfl⟩
    · next device source => exact ⟨device, by simp [asked, source], Device.gave_opened answered⟩
    · contradiction
    · next backend camera source =>
        cases external : c.externalCapabilities with
        | error e => simp [external, bind, Except.bind] at answered
        | ok own =>
            simp only [external, bind, Except.bind] at answered
            cases own with
            | some own =>
                obtain rfl := Except.ok.inj answered
                exact external_gave external
            | none =>
                rw [asked_of_external_none source external]
                exact getDeviceCapabilities_gave answered

private theorem candidates_reported {request : CaptureRequest} {configs : List CameraConfig}
    (offers : c.Offers request) (made : c.candidates rateDelta request = .ok configs)
    {config : CameraConfig} (there : config ∈ configs) :
    ∃ device, c.asked = some device ∧ device.ReportsConfig config := by
  have ranked : ∀ {answer : DeviceCapabilities} {device : Device}, device.Gave answer →
      (do request.rankCaptureConfigurations rateDelta (← answer.configurations)) = .ok configs →
        device.ReportsConfig config := by
    intro answer device gave ranking
    cases listed : answer.configurations with
    | error e => simp [listed, bind, Except.bind] at ranking
    | ok all =>
        simp only [listed, bind, Except.bind] at ranking
        exact gave.configuration listed (CaptureRequest.ranked_listed ranking there).1
  unfold candidates at made
  split at made
  · contradiction
  · split at made
    · next source =>
        obtain rfl := Except.ok.inj made
        obtain rfl := List.mem_singleton.mp there
        simp only [Offers, source] at offers
        refine ⟨.synthetic, by simp [asked, source], .inl ⟨⟨.rgb, 640, 480, .standard⟩, ?_, ?_⟩⟩
        · exact ⟨_, rfl, List.mem_singleton.mpr rfl⟩
        · simp only [CaptureRequest.configFor, offers]
          rfl
    · next source =>
        cases external : c.externalCapabilities with
        | error e => simp [external, bind, Except.bind] at made
        | ok own =>
            simp only [external, bind, Except.bind] at made
            cases own with
            | none => contradiction
            | some own =>
                obtain ⟨device, asks, gave⟩ := external_gave external
                exact ⟨device, asks, ranked gave made⟩
    · next backend camera source =>
        cases external : c.externalCapabilities with
        | error e => simp [external, bind, Except.bind] at made
        | ok own =>
            simp only [external, bind, Except.bind] at made
            cases own with
            | some own =>
                obtain ⟨device, asks, gave⟩ := external_gave external
                exact ⟨device, asks, ranked gave made⟩
            | none =>
                rw [asked_of_external_none source external]
                cases answered : getDeviceCapabilities c.world backend c.index with
                | error e => simp [answered] at made
                | ok answer =>
                    simp only [answered] at made
                    cases listed : answer.configurations with
                    | error e => simp [listed] at made
                    | ok all =>
                        simp only [listed] at made
                        cases probed : requestedConfigs c.world backend c.index request all with
                        | error e => simp [probed] at made
                        | ok requested =>
                            simp only [probed] at made
                            have either := (CaptureRequest.ranked_listed made there).1
                            rcases List.mem_append.mp either with advertised | asked
                            · obtain ⟨device, found, gave⟩ := getDeviceCapabilities_gave answered
                              exact ⟨device, found, gave.configuration listed advertised⟩
                            · exact requestedConfigs_supported probed asked

theorem tries_reported {request : CaptureRequest} {results : List Bool} (offers : c.Offers request)
    {config : CameraConfig} (tried : config ∈ c.tries rateDelta request results) :
    ∃ device, c.asked = some device ∧ device.ReportsConfig config := by
  unfold tries at tried
  split at tried
  · next configs made => exact candidates_reported offers made (attempted_listed tried)
  · contradiction

private theorem AsksNamed.ownModes (asks : c.AsksNamed) : c.OwnModes rateDelta := by
  constructor
  · intro answer answered
    obtain ⟨device, asked, gave⟩ := capabilities_gave answered
    exact ⟨fun mode there => ⟨device, asks device asked, gave.1 mode there⟩,
      fun range there => ⟨device, asks device asked, gave.2 range there⟩⟩
  · intro request results offers config tried
    obtain ⟨device, asked, reports⟩ := tries_reported offers tried
    exact ⟨device, asks device asked, reports⟩

end Camera

/-! ### Runs -/

def Camera.Numbered (c : Camera) : Prop :=
  ∀ device, c.world.numbered c.index = some device → c.world.named c.native = some device

/-- Each rearrangement leaves the device asked the one meant, and so does the loss of a
libuvc handle. -/
def Steady (c : Camera) : Action → Prop
  | .rearrange world => ({ c with world := world } : Camera).AsksNamed
  | .reopen => ∀ camera, c.source = .native .uvc camera → c.Numbered
  | _ => True

theorem named_of_select (selected : world.select id = .ok entry) :
    world.named id = some entry.device := by
  simp [Arrangement.named, selected]

theorem select_attached (selected : world.select id = .ok entry) : entry ∈ world.attached := by
  unfold Arrangement.select at selected
  split at selected
  · contradiction
  · next other only =>
      have kept : entry ∈ [other] := List.mem_singleton.mpr (Except.ok.inj selected).symm
      rw [← only] at kept
      exact (List.mem_filter.mp kept).1
  · contradiction

private theorem find_numbered {attached : List Attached}
    (distinct : (attached.map fun entry => entry.info.index).Nodup) (there : entry ∈ attached) :
    attached.find? (fun other => decide (other.info.index = entry.info.index)) = some entry := by
  induction attached with
  | nil => contradiction
  | cons first rest ih =>
      simp only [List.map_cons, List.nodup_cons] at distinct
      rcases List.mem_cons.mp there with rfl | later
      · exact List.find?_cons_of_pos (by simp)
      · have different : first.info.index ≠ entry.info.index := by
          intro same
          exact distinct.1 (List.mem_map.mpr ⟨entry, later, same.symm⟩)
        rw [List.find?_cons_of_neg (by simpa using different)]
        exact ih distinct.2 later

theorem numbered_of_attached (there : entry ∈ world.attached) :
    world.numbered entry.info.index = some entry.device := by
  rw [Arrangement.numbered, find_numbered world.distinct there, Option.map_some]

private theorem numbered_of_select (selected : world.select id = .ok entry) :
    world.numbered entry.info.index = world.named id :=
  (numbered_of_attached (select_attached selected)).trans (named_of_select selected).symm

namespace Camera

theorem AsksNamed.of_numbered {backend : BackendType} {camera : Option BackendCamera}
    (source : c.source = .native backend camera) (numbered : c.Numbered)
    (held : ∀ opened device, camera = some opened → opened.handle = some device →
      c.world.named c.native = some device) : c.AsksNamed := by
  intro device asks
  simp only [addressed, source]
  simp only [asked, source] at asks
  split at asks
  · cases camera with
    | none => contradiction
    | some opened =>
        cases handle : opened.handle with
        | none => exact numbered device (by simpa [handle] using asks)
        | some own =>
            have same : own = device := by simpa [handle] using asks
            exact same ▸ held opened own rfl handle
  · exact numbered device asks

end Camera

theorem createSelectedCamera_handle {backend : BackendType} {camera : BackendCamera}
    (created : createSelectedCamera world backend id = .ok camera) :
    camera.handle = if backend = .mediaFoundation then world.named id else none := by
  unfold createSelectedCamera at created
  split at created
  · obtain rfl := Except.ok.inj created
    rfl
  · cases selected : world.select id with
    | error e => simp [selected, bind, Except.bind] at created
    | ok entry =>
        rw [named_of_select selected]
        simp only [selected, bind, Except.bind] at created
        split at created
        · next access configs ranges supports _ =>
            cases access with
            | error e => contradiction
            | ok _ =>
                obtain rfl := Except.ok.inj created
                rfl
        · contradiction

theorem createSelectedCamera_named {backend : BackendType} {camera : BackendCamera}
    (created : createSelectedCamera world backend id = .ok camera)
    (held : camera.handle = some device) : world.named id = some device := by
  rw [createSelectedCamera_handle created] at held
  split at held
  · exact held
  · contradiction

private theorem createSelectedCamera_media {camera : BackendCamera}
    (created : createSelectedCamera world .mediaFoundation id = .ok camera) :
    ∃ device, camera.handle = some device := by
  rw [createSelectedCamera_handle created, if_pos rfl]
  cases selected : world.select id with
  | error e => simp [createSelectedCamera, selected, bind, Except.bind] at created
  | ok entry => exact ⟨entry.device, named_of_select selected⟩

namespace Camera

theorem AsksNamed.openHandle (asks : c.AsksNamed) : c.openHandle.AsksNamed := by
  unfold Camera.openHandle
  split
  · next source =>
      split
      · next selected =>
          intro device asked
          simp only [Camera.asked, or_true, if_true, Option.bind_some, Option.some_or,
            Option.some.injEq] at asked
          exact asked ▸ named_of_select selected
      · exact asks
  · exact asks

private theorem created_of_again {backend : BackendType} {opened : BackendCamera}
    (found : (c.again backend).toOption = some opened) :
    createSelectedCamera c.world backend c.native = .ok opened := by
  unfold Camera.again at found
  cases selected : c.world.select c.native with
  | error e =>
      rw [selected] at found
      cases found
  | ok entry =>
      rw [selected] at found
      change (createSelectedCamera c.world backend c.native).toOption = some opened at found
      cases result : createSelectedCamera c.world backend c.native with
      | error e =>
          rw [result] at found
          cases found
      | ok camera =>
          rw [result] at found
          exact congrArg Except.ok (Option.some.inj found)

theorem AsksNamed.reopen (asks : c.AsksNamed)
    (numbered : ∀ camera, c.source = .native .uvc camera → c.Numbered) :
    c.reopen.AsksNamed := by
  unfold Camera.reopen
  split
  · next backend camera source =>
      have held : ∀ opened device, (c.again backend).toOption = some opened →
          opened.handle = some device → c.world.named c.native = some device := by
        intro opened device found handle
        exact createSelectedCamera_named (created_of_again found) handle
      by_cases media : backend = .mediaFoundation
      · intro device asked
        simp only [Camera.asked, media, true_or, if_true] at asked
        obtain ⟨opened, found, answers⟩ := Option.bind_eq_some_iff.mp asked
        rw [← media] at found
        obtain ⟨own, handle⟩ := createSelectedCamera_media (media ▸ created_of_again found)
        have same : own = device := by simpa [handle] using answers
        exact same ▸ held opened own found handle
      · by_cases uvc : backend = .uvc
        · subst uvc
          exact .of_numbered rfl (numbered camera source) held
        · intro device asked
          have byNumber : c.asked = some device := by
            simpa [Camera.asked, source, media, uvc] using asked
          simpa [addressed, source] using asks device byNumber
  · exact asks

theorem AsksNamed.release (asks : c.AsksNamed) : c.release.AsksNamed := by
  intro device asked
  cases source : c.source with
  | synthetic => simpa [Camera.asked, addressed, Camera.release, source] using asked
  | custom device => simp [Camera.asked, Camera.release, source] at asked
  | native backend camera =>
      simp only [Camera.asked, Camera.release, source, Option.bind_none] at asked
      split at asked
      · contradiction
      · next neither =>
          have byNumber : c.asked = some device := by
            simpa [Camera.asked, source, neither] using asked
          simpa [addressed, Camera.release, source] using asks device byNumber

theorem AsksNamed.step {action : Action} (asks : c.AsksNamed) (steady : Steady c action)
    (taken : step rateDelta c action = some c') : c'.AsksNamed := by
  cases action with
  | rearrange world =>
      obtain rfl := Option.some.inj taken
      exact steady
  | start request results =>
      simp only [Negotiation.step] at taken
      split at taken
      · contradiction
      · split at taken
        · exact Option.some.inj taken ▸ asks
        · obtain rfl := Option.some.inj taken
          exact asks.openHandle
  | endSession =>
      simp only [Negotiation.step] at taken
      split at taken
      · obtain rfl := Option.some.inj taken
        exact asks
      · contradiction
  | reopen =>
      simp only [Negotiation.step] at taken
      split at taken
      · obtain rfl := Option.some.inj taken
        exact asks.reopen steady
      · contradiction
  | restart =>
      simp only [Negotiation.step] at taken
      split at taken
      · obtain rfl := Option.some.inj taken
        exact asks.openHandle
      · contradiction
  | close =>
      simp only [Negotiation.step] at taken
      split at taken
      · contradiction
      · obtain rfl := Option.some.inj taken
        exact asks.release

private theorem openNative_asksNamed {backend : BackendType}
    (opened : openNative world backend id = .ok c) : c.AsksNamed := by
  cases selected : world.select id with
  | error e => simp [openNative, selected, bind, Except.bind] at opened
  | ok entry =>
      cases created : createSelectedCamera world backend id with
      | error e => simp [openNative, selected, created, bind, Except.bind] at opened
      | ok camera =>
          simp only [openNative, selected, created, bind, Except.bind, pure, Except.pure,
            Except.ok.injEq] at opened
          subst opened
          refine .of_numbered rfl ?_ ?_
          · intro device numbered
            rw [← numbered_of_select selected]
            exact numbered
          · intro own device same handle
            exact createSelectedCamera_named (Option.some.inj same ▸ created) handle

private theorem openCustom_asksNamed (opened : openCustom world id = .ok c) : c.AsksNamed := by
  cases selected : world.select id with
  | error e => simp [openCustom, selected, bind, Except.bind] at opened
  | ok entry =>
      simp only [openCustom, selected, bind, Except.bind, pure, Except.pure,
        Except.ok.injEq] at opened
      subst opened
      intro device asked
      exact (named_of_select selected).trans asked

private theorem asksNamed_of_initial (start : (machine rateDelta).initial c) : c.AsksNamed := by
  rcases start with ⟨world, backend, id, opened⟩ | ⟨world, id, opened⟩ | ⟨world, rfl⟩
  · exact openNative_asksNamed opened
  · exact openCustom_asksNamed opened
  · exact fun device asked => asked

end Camera

/-- While the devices are only rearranged around the one that is asked, every mode returned
or tried is one of the device that has the identifier at that moment. -/
theorem negotiates_own_modes (reached : (machine rateDelta).Reachable Steady c) :
    c.OwnModes rateDelta := by
  have asks : c.AsksNamed := reached.invariant (fun c start => Camera.asksNamed_of_initial start)
    (fun c action next steady taken asks => asks.step steady taken)
  exact asks.ownModes

/-- The distance of two rates in millionths, without rounding. -/
def exactDelta (a b : FrameRate) : Nat :=
  let left := a.numerator.toNat * b.denominator.toNat
  let right := b.numerator.toNat * a.denominator.toNat
  (max left right - min left right) * 1000000 / (a.denominator.toNat * b.denominator.toNat)

def small : CameraConfig := { format := .yuyv, width := 640, height := 480, fps := 30 }

def large : CameraConfig := { format := .yuyv, width := 1920, height := 1080, fps := 30 }

def only (index : Nat) (path : String) (config : CameraConfig) : Attached :=
  { info := { index := index, devicePath := some path }
    device := .native (.ok ()) [config] [] fun asked => .ok (decide (asked = config)) }

def sideBySide : Arrangement := ⟨[only 0 "front" small, only 1 "back" large], by decide⟩

def swapped : Arrangement := ⟨[only 0 "back" large, only 1 "front" small], by decide⟩

def frontUnplugged : Arrangement := ⟨[only 0 "back" large], by decide⟩

def backUnplugged : Arrangement := ⟨[only 0 "front" small], by decide⟩

def openedFront (world : Arrangement) (backend : BackendType) : Camera :=
  { world := world
    native := "front"
    index := 0
    source := .native backend (some
      { handle :=
          if backend = .mediaFoundation then some (only 0 "front" small).device else none }) }

private theorem opened_front (backend : BackendType) :
    openNative sideBySide backend "front" = .ok (openedFront sideBySide backend) := by
  cases backend <;> rfl

theorem rearranged_front {admits : Camera → Action → Prop} {world : Arrangement}
    {backend : BackendType}
    (admitted : admits (openedFront sideBySide backend) (.rearrange world)) :
    (machine exactDelta).Reachable admits (openedFront world backend) :=
  ⟨_, _, .inl ⟨sideBySide, backend, "front", opened_front backend⟩, .single admitted rfl⟩

theorem negotiates_own_modes_back_unplugged :
    (openedFront backUnplugged .v4l2).OwnModes exactDelta ∧
      (openedFront backUnplugged .v4l2).tries exactDelta {} [true] = [small] := by
  refine ⟨negotiates_own_modes (rearranged_front ?_), by decide +kernel⟩
  intro device asked
  exact asked

/-! ### What goes wrong otherwise -/

def largeMode : CaptureMode :=
  { format := .yuyv, width := 1920, height := 1080, frameRate := .standard }

def smallMode : CaptureMode :=
  { format := .yuyv, width := 640, height := 480, frameRate := .standard }

private theorem swapped_foreign {backend : BackendType} (other : backend ≠ .mediaFoundation) :
    ((openedFront swapped backend).capabilities.toOption.any fun answer =>
      answer.modes.contains largeMode) = true ∧
    (openedFront swapped backend).tries exactDelta {} [true] = [large] ∧
    (openedFront swapped backend).addressed = some (only 1 "front" small).device := by
  cases backend with
  | mediaFoundation => exact absurd rfl other
  | uvc => exact ⟨by decide +kernel, by decide +kernel, rfl⟩
  | avFoundation => exact ⟨by decide +kernel, by decide +kernel, rfl⟩
  | camera2 => exact ⟨by decide +kernel, by decide +kernel, rfl⟩
  | v4l2 => exact ⟨by decide +kernel, by decide +kernel, rfl⟩

theorem not_always_own_modes :
    (∀ backend ≠ .mediaFoundation,
      (machine exactDelta).Reachable Lib.Machine.anything (openedFront swapped backend) ∧
        ¬ (openedFront swapped backend).OwnModes exactDelta) ∧
    (machine exactDelta).Reachable Lib.Machine.anything
        (openedFront frontUnplugged .mediaFoundation) ∧
      ¬ (openedFront frontUnplugged .mediaFoundation).OwnModes exactDelta := by
  refine ⟨fun backend other => ⟨rearranged_front trivial, fun own => ?_⟩,
    rearranged_front trivial, fun own => ?_⟩
  · obtain ⟨returned, _, meant⟩ := swapped_foreign other
    obtain ⟨answer, given, listed⟩ := (Option.any_eq_true _ _).mp returned
    cases answered : (openedFront swapped backend).capabilities with
    | error e => simp [answered, Except.toOption] at given
    | ok answer' =>
        have same : answer' = answer := by simpa [answered, Except.toOption] using given
        obtain ⟨device, addressed, reports⟩ :=
          (own.returned answer' answered).1 largeMode (same ▸ List.contains_iff_mem.mp listed)
        obtain rfl := Option.some.inj (meant.symm.trans addressed)
        obtain ⟨config, there, made⟩ := reports
        obtain rfl := List.mem_singleton.mp there
        cases made
  · obtain ⟨device, addressed, _⟩ :=
      (own.returned _ rfl).1 smallMode (by decide +kernel)
    have gone : (openedFront frontUnplugged .mediaFoundation).addressed = none := rfl
    rw [gone] at addressed
    contradiction

end CameraRs.Negotiation
