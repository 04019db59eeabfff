import Toolsmith.Proofs.Json.Writing
import Toolsmith.World

/-!
# Activities that return

What it means for an activity to return from a world: its steps have returned, one after another,
and each has changed the world in its own way. There is one fact for every step, so a run is taken
apart by rewriting.
-/

namespace Toolsmith.Action

variable {α β : Type} {w w' : World}

/-- A sequence returns exactly if both parts do. -/
theorem bind_eq_ok {x : Action α} {f : α → Action β} {b : β} :
    (x >>= f) w = .ok b w' ↔ ∃ a v, x w = .ok a v ∧ f a v = .ok b w' := by
  show EStateM.bind x f w = .ok b w' ↔ _
  unfold EStateM.bind
  cases x w with
  | ok a v =>
    simp only [EStateM.Result.ok.injEq]
    constructor
    · exact fun h => ⟨a, v, ⟨rfl, rfl⟩, h⟩
    · rintro ⟨_, _, ⟨rfl, rfl⟩, h⟩
      exact h
  | error fault v => simp

/-- What follows a part that returns goes on with its value and its world. -/
theorem bind_of_ok {x : Action α} {f : α → Action β} {a : α} (h : x w = .ok a w') :
    (x >>= f) w = f a w' := by
  show EStateM.bind x f w = _
  rw [EStateM.bind, h]

/-- Sequences are the same where their parts are. -/
theorem bind_congr {x y : Action α} {f g : α → Action β} (h : x w = y w)
    (hrest : ∀ a v, x w = .ok a v → f a v = g a v) : (x >>= f) w = (y >>= g) w := by
  show EStateM.bind x f w = EStateM.bind y g w
  unfold EStateM.bind
  rw [← h]
  cases hx : x w with
  | ok a v => exact hrest a v hx
  | error fault v => rfl

/-- Whether an activity returns from a world, with a result and a world that pass a check. -/
def returns (x : Action α) (w : World) (check : α → World → Bool) : Bool :=
  match x w with
  | .ok a w' => check a w'
  | .error _ _ => false

/-- An activity that returns has a result and leaves a world. -/
theorem exists_of_returns {x : Action α} {check : α → World → Bool} (h : returns x w check = true) :
    ∃ a w', x w = .ok a w' ∧ check a w' = true := by
  unfold returns at h
  cases hx : x w with
  | ok a w' =>
    rw [hx] at h
    exact ⟨a, w', rfl, h⟩
  | error fault w' =>
    rw [hx] at h
    cases h

/-- Whether an activity stops from a world, with a fault and a world that pass a check. -/
def stops (x : Action α) (w : World) (check : Fault → World → Bool) : Bool :=
  match x w with
  | .ok _ _ => false
  | .error fault w' => check fault w'

/-- An activity that stops has a fault and leaves a world. -/
theorem exists_of_stops {x : Action α} {check : Fault → World → Bool} (h : stops x w check = true) :
    ∃ fault w', x w = .error fault w' ∧ check fault w' = true := by
  unfold stops at h
  cases hx : x w with
  | ok a w' =>
    rw [hx] at h
    cases h
  | error fault w' =>
    rw [hx] at h
    exact ⟨fault, w', rfl, h⟩

/-- What is found of a result is its value. -/
theorem eq_ok_of_toOption {ε : Type} {x : Except ε α} {a : α} (h : x.toOption = some a) :
    x = .ok a := by
  cases x with
  | ok b => rw [Option.some.inj h]
  | error fault => cases h

/-- A value is returned without a change. -/
theorem pure_eq_ok {a b : α} : (pure a : Action α) w = .ok b w' ↔ a = b ∧ w = w' := by
  show EStateM.Result.ok a w = .ok b w' ↔ _
  rw [EStateM.Result.ok.injEq]

/-- A fault does not return. -/
theorem throw_eq_ok {fault : Fault} {a : α} :
    (throw fault : Action α) w = .ok a w' ↔ False :=
  iff_false_intro fun h => by cases h

/-- What stops at once leaves the world as it is. -/
theorem throw_eq_error {fault fault' : Fault} :
    (throw fault : Action α) w = .error fault' w' ↔ fault' = fault ∧ w' = w := by
  show EStateM.Result.error fault w = .error fault' w' ↔ _
  rw [EStateM.Result.error.injEq, eq_comm (a := fault), eq_comm (a := w)]

/-- What follows a look at the world is given the world. -/
theorem get_bind {f : World → Action β} : (get >>= f) w = f w w :=
  rfl

/-- A new world takes the place of the old one. -/
theorem set_eq_ok {v : World} {u : PUnit} : (set v : Action PUnit) w = .ok u w' ↔ v = w' := by
  show EStateM.Result.ok PUnit.unit v = .ok u w' ↔ _
  simp

/-- What follows a change of the world goes on in the new one. -/
theorem set_bind {v : World} {f : PUnit → Action β} : (set v >>= f) w = f ⟨⟩ v :=
  rfl

/-- A result is returned exactly if it is no fault. -/
theorem ofExcept_eq_ok {x : Except Fault α} {a : α} :
    ofExcept x w = .ok a w' ↔ x = .ok a ∧ w = w' := by
  cases x with
  | ok b => simp [ofExcept, pure_eq_ok]
  | error fault => simp [ofExcept, throw_eq_ok]

/-- A question for a path gives its answer and leaves the world. -/
theorem fileExists_eq_ok {path : Path} {b : Bool} :
    fileExists path w = .ok b w' ↔ w.files.exists? path = .ok b ∧ w = w' := by
  rw [fileExists, get_bind, ofExcept_eq_ok]

/-- A change of the files leaves everything else. -/
theorem changeFiles_eq_ok {change : Tree → Except Fault Tree} {u : Unit} :
    changeFiles change w = .ok u w' ↔
      ∃ files, change w.files = .ok files ∧ w' = { w with files } := by
  simp only [changeFiles, get_bind, bind_eq_ok, ofExcept_eq_ok, set_eq_ok]
  constructor
  · rintro ⟨files, _, ⟨hfiles, rfl⟩, rfl⟩
    exact ⟨files, hfiles, rfl⟩
  · rintro ⟨files, hfiles, rfl⟩
    exact ⟨files, w, ⟨hfiles, rfl⟩, rfl⟩

/-- Directories are made without a fault. -/
theorem makeDirectories_eq_ok {path : Path} {u : Unit} :
    makeDirectories path w = .ok u w' ↔
      ∃ files, w.files.makeDirectories path = (files, none) ∧ w' = { w with files } := by
  rw [makeDirectories, get_bind]
  obtain ⟨files, fault?⟩ := w.files.makeDirectories path
  simp only [set_bind]
  cases fault? with
  | none => simp [pure_eq_ok, eq_comm (a := w')]
  | some fault => simp [throw_eq_ok]

/-- A text is read from bytes that encode one. -/
theorem readText_eq_ok {path : Path} {t : Text} :
    readText path w = .ok t w' ↔
      (∃ bytes raw, w.files.read path = .ok bytes ∧ Text.decode bytes = some raw ∧
        raw.unifyLineEnds = t) ∧ w = w' := by
  simp only [readText, get_bind, bind_eq_ok, ofExcept_eq_ok]
  constructor
  · rintro ⟨bytes, _, ⟨hread, rfl⟩, h⟩
    cases hdecode : Text.decode bytes with
    | none => simp [hdecode, throw_eq_ok] at h
    | some raw =>
      simp only [hdecode, pure_eq_ok] at h
      exact ⟨⟨bytes, raw, hread, hdecode, h.1⟩, h.2⟩
  · rintro ⟨⟨bytes, raw, hread, hdecode, rfl⟩, rfl⟩
    exact ⟨bytes, w, ⟨hread, rfl⟩, by simp only [hdecode, pure_eq_ok, and_self]⟩

/-- A text that has an encoding is written. -/
theorem writeText_eq_ok {path : Path} {t : Text} {u : Unit} :
    writeText path t w = .ok u w' ↔
      ∃ bytes files, t.encode = some bytes ∧ w.files.write path bytes = .ok files ∧
        w' = { w with files } := by
  simp only [writeText, bind_eq_ok, changeFiles_eq_ok]
  cases hencode : t.encode with
  | none => simp [throw_eq_ok]
  | some bytes =>
    constructor
    · rintro ⟨_, v, ⟨files, hwrite, rfl⟩, h⟩
      exact ⟨bytes, files, rfl, hwrite, (pure_eq_ok.mp h).2.symm⟩
    · rintro ⟨_, files, ⟨⟩, hwrite, rfl⟩
      exact ⟨⟨⟩, _, ⟨files, hwrite, rfl⟩, pure_eq_ok.mpr ⟨rfl, rfl⟩⟩

/-- A document that fits is written as its text. -/
theorem writeDocument_of_fits {path : Path} {v : Json} (h : v.Fits Json.maxDepth) :
    writeDocument path v = writeText path v.fileText := by
  unfold writeDocument
  rw [h.dump]

/-- A document that does not fit is not written. -/
theorem writeDocument_of_dump {path : Path} {v : Json} {obstacle : Json.Obstacle}
    (h : v.dump = .error obstacle) :
    writeDocument path v w = .error (.ofObstacle obstacle) w := by
  unfold writeDocument
  rw [h]
  rfl

/-- A document is written exactly if it fits and its text is written. -/
theorem writeDocument_eq_ok {path : Path} {v : Json} {u : Unit} :
    writeDocument path v w = .ok u w' ↔
      v.Fits Json.maxDepth ∧ writeText path v.fileText w = .ok u w' := by
  by_cases hfits : v.Fits Json.maxDepth
  · rw [writeDocument_of_fits hfits]
    exact (and_iff_right hfits).symm
  · obtain ⟨obstacle, hobstacle⟩ := Json.exists_dump_eq_error hfits
    rw [writeDocument_of_dump hobstacle]
    exact iff_of_false nofun fun h => hfits h.1

/-- A document is read from the text that writes it. -/
theorem readDocument_eq_ok {path : Path} {v : Json} :
    readDocument path w = .ok v w' ↔
      ∃ t, readText path w = .ok t w' ∧ Json.parse t = .ok v := by
  simp only [readDocument, bind_eq_ok]
  constructor
  · rintro ⟨t, u, hread, h⟩
    cases hparse : Json.parse t with
    | error defect => simp [hparse, throw_eq_ok] at h
    | ok document =>
      simp only [hparse, pure_eq_ok] at h
      obtain ⟨rfl, rfl⟩ := h
      exact ⟨t, hread, hparse⟩
  · rintro ⟨t, hread, hparse⟩
    exact ⟨t, w', hread, by simp only [hparse, pure_eq_ok, and_self]⟩

/-- A request is kept, and the network answers it. -/
theorem send_eq_ok {network : Network} {request : Request} {reply : Reply} :
    send network request w = .ok reply w' ↔
      network w.sent request = reply ∧ { w with sent := w.sent ++ [request] } = w' := by
  simp only [send, get_bind, set_bind]
  exact pure_eq_ok

/-- A sequence fails where the first part does, or where the second does after the first. -/
theorem bind_eq_error {x : Action α} {f : α → Action β} {fault : Fault} :
    (x >>= f) w = .error fault w' ↔
      x w = .error fault w' ∨ ∃ a v, x w = .ok a v ∧ f a v = .error fault w' := by
  show EStateM.bind x f w = .error fault w' ↔ _
  unfold EStateM.bind
  cases x w with
  | ok a v =>
    simp only [EStateM.Result.ok.injEq, reduceCtorEq, false_or]
    constructor
    · exact fun h => ⟨a, v, ⟨rfl, rfl⟩, h⟩
    · rintro ⟨_, _, ⟨rfl, rfl⟩, h⟩
      exact h
  | error other v => simp

/-- A result that is a fault fails where it is. -/
theorem ofExcept_eq_error {x : Except Fault α} {fault : Fault} :
    ofExcept x w = .error fault w' ↔ x = .error fault ∧ w = w' := by
  cases x with
  | ok a =>
    show EStateM.Result.ok a w = .error fault w' ↔ _
    simp
  | error other =>
    show EStateM.Result.error other w = .error fault w' ↔ _
    rw [EStateM.Result.error.injEq, Except.error.injEq]

/-- Files that cannot be changed as asked stay as they are. -/
theorem changeFiles_of_error {change : Tree → Except Fault Tree} {fault : Fault}
    (h : change w.files = .error fault) : changeFiles change w = .error fault w := by
  unfold changeFiles
  rw [get_bind]
  exact bind_eq_error.mpr (.inl (ofExcept_eq_error.mpr ⟨h, rfl⟩))

/-- Writing a text stops where no file can be written, or at a text without an encoding, when the
file has been emptied. -/
theorem writeText_eq_error {path : Path} {t : Text} {fault : Fault} :
    writeText path t w = .error fault w' ↔
      (w.files.write path (t.encode.getD []) = .error fault ∧ w' = w) ∨
        (t.encode = none ∧ fault = .unencodable ∧
          ∃ files, w.files.write path [] = .ok files ∧ w' = { w with files }) := by
  unfold writeText
  rw [bind_eq_error]
  cases hwrite : w.files.write path (t.encode.getD []) with
  | error other =>
    have hchange : changeFiles (fun files => files.write path (t.encode.getD [])) w =
        .error other w :=
      changeFiles_of_error hwrite
    rw [hchange]
    cases hencode : t.encode with
    | none =>
      rw [hencode] at hwrite
      simp [show w.files.write path [] = .error other from hwrite, eq_comm (a := w)]
    | some bytes => simp [eq_comm (a := w)]
  | ok files =>
    have hchange : changeFiles (fun files => files.write path (t.encode.getD [])) w =
        .ok () { w with files } :=
      changeFiles_eq_ok.mpr ⟨files, hwrite, rfl⟩
    rw [hchange]
    cases hencode : t.encode with
    | none =>
      rw [hencode] at hwrite
      simp [show w.files.write path [] = .ok files from hwrite, throw_eq_error]
    | some bytes => simp [pure, EStateM.pure]

/-- A document is not written where no file can be. -/
theorem writeDocument_of_error {path : Path} {v : Json} {fault : Fault}
    (hfits : v.Fits Json.maxDepth)
    (h : w.files.write path (v.fileText.encode.getD []) = .error fault) :
    writeDocument path v w = .error fault w := by
  rw [writeDocument_of_fits hfits]
  exact bind_eq_error.mpr (.inl (changeFiles_of_error h))

/-- What is caught goes on in the world in which it failed. -/
theorem tryCatch_eq_ok {x : Action α} {handle : Fault → Action α} {a : α} :
    (tryCatch x handle : Action α) w = .ok a w' ↔
      x w = .ok a w' ∨ ∃ fault v, x w = .error fault v ∧ handle fault v = .ok a w' := by
  show EStateM.tryCatch x handle w = .ok a w' ↔ _
  unfold EStateM.tryCatch
  cases x w with
  | ok b v => simp
  | error fault v =>
    simp only [reduceCtorEq, EStateM.Result.error.injEq, false_or]
    constructor
    · exact fun h => ⟨fault, v, ⟨rfl, rfl⟩, h⟩
    · rintro ⟨_, _, ⟨rfl, rfl⟩, h⟩
      exact h

/-- The world that an outcome leaves, with or without a fault. -/
def left : EStateM.Result Fault World α → World
  | .ok _ w => w
  | .error _ w => w

/-- What holds of the world that a sequence leaves: it is left by the second part, or by the first
part where that stops. -/
theorem left_bind {p : World → Prop} {x : Action α} {f : α → Action β}
    (hok : ∀ a v, x w = .ok a v → p (left (f a v)))
    (herror : ∀ fault v, x w = .error fault v → p v) : p (left ((x >>= f) w)) := by
  show p (left (EStateM.bind x f w))
  unfold EStateM.bind
  cases hx : x w with
  | ok a v => exact hok a v hx
  | error fault v => exact herror fault v hx

/-- An activity that only looks: however it ends, it leaves the world as it was. -/
def Quiet (x : Action α) : Prop :=
  ∀ w, left (x w) = w

namespace Quiet

variable {x : Action α} {f : α → Action β}

/-- What only looks leaves the world where it returns. -/
theorem of_ok (h : Quiet x) {a : α} (hx : x w = .ok a w') : w' = w := by
  have hw := h w
  rwa [hx] at hw

/-- What only looks leaves the world where it stops. -/
theorem of_error (h : Quiet x) {fault : Fault} (hx : x w = .error fault w') : w' = w := by
  have hw := h w
  rwa [hx] at hw

/-- A value is returned without a change. -/
theorem pure (a : α) : Quiet (Pure.pure a) :=
  fun _ => rfl

/-- Parts that only look make a sequence that only looks. -/
theorem bind (h : Quiet x) (hf : ∀ a, Quiet (f a)) : Quiet (x >>= f) := by
  intro w
  show left (EStateM.bind x f w) = w
  unfold EStateM.bind
  cases hx : x w with
  | ok a v =>
    obtain rfl := h.of_ok hx
    exact hf a v
  | error fault v => exact h.of_error hx

/-- A look at the world changes nothing. -/
theorem get_bind {f : World → Action β} (hf : ∀ w, Quiet (f w)) : Quiet (get >>= f) :=
  fun w => hf w w

/-- A result that may be a fault leaves the world. -/
theorem ofExcept (x : Except Fault α) : Quiet (Action.ofExcept x) := by
  cases x with
  | ok a => exact pure a
  | error fault => exact fun _ => rfl

/-- A question for a path leaves the world. -/
theorem fileExists (path : Path) : Quiet (Action.fileExists path) :=
  get_bind fun _ => ofExcept _

/-- Reading a text leaves the world. -/
theorem readText (path : Path) : Quiet (Action.readText path) := by
  refine get_bind fun w => (ofExcept _).bind fun bytes => ?_
  cases Text.decode bytes with
  | none => exact fun _ => rfl
  | some t => exact pure _

/-- Reading a document leaves the world. -/
theorem readDocument (path : Path) : Quiet (Action.readDocument path) := by
  refine (readText path).bind fun t => ?_
  cases Json.parse t with
  | ok v => exact pure v
  | error defect => exact fun _ => rfl

end Quiet

/-- An activity whose faults are handled only looks if it and the handling do. -/
theorem Quiet.tryCatch {x : Action α} {handle : Fault → Action α} (h : Quiet x)
    (hhandle : ∀ fault, Quiet (handle fault)) : Quiet (MonadExcept.tryCatch x handle) := by
  intro w
  show left (EStateM.tryCatch x handle w) = w
  unfold EStateM.tryCatch
  cases hx : x w with
  | ok a v => exact h.of_ok hx
  | error fault v =>
    obtain rfl := h.of_error hx
    exact hhandle fault v

/-- An activity that keeps a property of the files: however it ends, they have it if they had it
before. -/
def Preserves (p : Tree → Prop) (x : Action α) : Prop :=
  ∀ w, p w.files → p (left (x w)).files

/-- What only looks keeps every property of the files. -/
theorem Quiet.preserves {p : Tree → Prop} {x : Action α} (h : Quiet x) : Preserves p x := by
  intro w hw
  rwa [h w]

namespace Preserves

variable {p : Tree → Prop} {x : Action α} {f : α → Action β}

/-- A property that is kept holds where the activity returns. -/
theorem of_ok (h : Preserves p x) {a : α} (hw : p w.files) (hx : x w = .ok a w') : p w'.files := by
  have hleft := h w hw
  rwa [hx] at hleft

/-- A property that is kept holds where the activity stops. -/
theorem of_error (h : Preserves p x) {fault : Fault} (hw : p w.files)
    (hx : x w = .error fault w') : p w'.files := by
  have hleft := h w hw
  rwa [hx] at hleft

/-- Parts that keep a property make a sequence that keeps it. -/
theorem bind (h : Preserves p x) (hf : ∀ a, Preserves p (f a)) : Preserves p (x >>= f) := by
  intro w hw
  apply left_bind (p := fun v => p v.files)
  · exact fun a v hx => hf a v (h.of_ok hw hx)
  · exact fun fault v hx => h.of_error hw hx

/-- A look at the world keeps every property. -/
theorem get_bind {f : World → Action β} (hf : ∀ w, Preserves p (f w)) : Preserves p (get >>= f) :=
  fun w => hf w w

/-- A change of the files keeps a property if its results have it. -/
theorem changeFiles {change : Tree → Except Fault Tree}
    (h : ∀ tree tree', p tree → change tree = .ok tree' → p tree') :
    Preserves p (Action.changeFiles change) := by
  intro w hw
  cases hchange : change w.files with
  | ok files =>
    rw [(changeFiles_eq_ok (u := ())).mpr ⟨files, hchange, rfl⟩]
    exact h w.files files hw hchange
  | error fault =>
    rw [changeFiles_of_error hchange]
    exact hw

/-- Writing a text keeps a property that every text may be written under. -/
theorem writeText {path : Path} (t : Text)
    (h : ∀ tree tree' bytes, p tree → tree.write path bytes = .ok tree' → p tree') :
    Preserves p (Action.writeText path t) := by
  apply bind
  · exact changeFiles fun tree tree' => h tree tree' _
  · intro u
    split
    · exact fun _ hw => hw
    · exact (Quiet.pure _).preserves

/-- Writing a document keeps a property that every text may be written under. -/
theorem writeDocument {path : Path} (v : Json)
    (h : ∀ tree tree' bytes, p tree → tree.write path bytes = .ok tree' → p tree') :
    Preserves p (Action.writeDocument path v) := by
  by_cases hfits : v.Fits Json.maxDepth
  · rw [writeDocument_of_fits hfits]
    exact writeText v.fileText h
  · obtain ⟨obstacle, hobstacle⟩ := Json.exists_dump_eq_error hfits
    intro w hw
    rwa [writeDocument_of_dump hobstacle]

/-- Making directories keeps a property if the directories that have been made leave it. -/
theorem makeDirectories {path : Path}
    (h : ∀ tree tree' fault?, p tree → tree.makeDirectories path = (tree', fault?) → p tree') :
    Preserves p (Action.makeDirectories path) := by
  intro w hw
  unfold Action.makeDirectories
  rw [Action.get_bind]
  cases hmake : w.files.makeDirectories path with
  | mk files fault? =>
    have hfiles := h w.files files fault? hw hmake
    simp only [set_bind]
    cases fault? <;> exact hfiles

end Preserves

/-- A result that is no fault is returned. -/
theorem ofExcept_bind_of_ok {x : Except Fault α} {f : α → Action β} {a : α} (h : x = .ok a) :
    (ofExcept x >>= f) w = f a w :=
  bind_of_ok (ofExcept_eq_ok.mpr ⟨h, rfl⟩)

end Toolsmith.Action
