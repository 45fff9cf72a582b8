import ScriptRoster.Proofs.Session.Story

/-!
# How fresh a forced load is

A load that the cache may not answer reads the script itself, or joins another such load that has
made the same key and is still in flight. What it joins may have been read before it began. So its
names are those of something that the script held since it began, or of something that the other
load had in hand then; and if keys tell the time of the last change, and that time is honest, the
two are the same.
-/

namespace ScriptRoster

open Cache Files

/-- What is told of a load that ended well was found. -/
theorem LoadKind.exists_of_answer_ok {told : Report} {found : Except SessionError Report}
    (kind : LoadKind) (answers : kind.answer (.ok told) = kind.answer found) :
    ∃ report, found = .ok report := by
  cases found with
  | ok report => exact ⟨report, rfl⟩
  | error error => cases kind <;> cases answers

namespace Story

variable {story : Story} {now later first last : Nat} {key : String} {content : String} {slot : Slot}
  {result : Except ExtractionError Report} {stage next : Stage}

/-! ## What is found for a promise -/

/-- What a load has in hand was read after the key of its promise was made. -/
theorem Informs.backs {ticket : Ticket} (informs : story.Informs now stage)
    (carries : story.scene.session.profile.carried? stage = some (ticket, result)) :
    story.Backs now ticket.slot result := by
  have read : ∀ {content}, (∃ moment ≤ now, story.KeyIn 0 moment ticket.slot.key ∧
      story.Reads moment content) → story.Backs now ticket.slot (story.draw content) := by
    rintro content ⟨moment, before, keyIn, reads⟩ - report ok
    exact ⟨moment, content, before, keyIn, reads, ok⟩
  cases stage with
  | callSource errand held | extract errand held =>
      cases held with
      | none => cases carries
      | some held =>
          cases carries
          exact read informs
  | keep | leave | publish =>
      cases carries
      exact informs.2
  | _ => cases carries

variable (story)

/-- Whether the script held something at some moment from one to another. -/
def ReadIn (first last : Nat) (content : String) : Prop :=
  ∃ moment, first ≤ moment ∧ moment ≤ last ∧ story.Reads moment content

/-- A load that the cache may not answer, and that others may still join, has something in hand for
a key. -/
def Lends (now : Nat) (key content : String) : Prop :=
  ∃ (index : Nat) (task : Task) (ticket : Ticket), (story.after now).tasks[index]? = some task ∧
    task.stage.leads? = some ticket ∧ ticket.slot = ⟨key, false⟩ ∧
      story.scene.session.profile.carried? task.stage = some (ticket, story.draw content)

/-- Something that is lent, between two moments, for a key that the script has then. It may have been
read before, though not before the script had that key. -/
def Borrowed (first last : Nat) (content : String) : Prop :=
  ∃ now key, first ≤ now ∧ now ≤ last ∧ story.KeyIn first now key ∧ story.Lends now key content ∧
    ∃ earlier ≤ now, story.KeyIn 0 earlier key ∧ story.Reads earlier content

/-- Whether what was found is in something that the script held at some moment, or that was
borrowed. -/
def Recent (first last : Nat) (report : Report) : Prop :=
  ∃ content, story.draw content = .ok report ∧
    (story.ReadIn first last content ∨ story.Borrowed first last content)

/-- Whether a result tells of nothing older than the first of two moments. -/
def Fresh (first last : Nat) {ε : Type} (found : Except ε Report) : Prop :=
  ∀ report, found = .ok report → story.Recent first last report

/-- Whether a promise that somebody waits for since some moment will be kept with something
fresh. -/
structure Awaited (first now : Nat) (ticket : Ticket) : Prop where
  carried : ∀ (index : Nat) (task : Task) result, (story.after now).tasks[index]? = some task →
    story.scene.session.profile.carried? task.stage = some (ticket, result) →
      story.Fresh first now result
  kept : ∀ led result, (story.after now).scene.session.promises[ticket.promise]? =
    some ⟨ticket.slot, led, some result⟩ → story.Fresh first now result

variable {story}

theorem ReadIn.mono (readIn : story.ReadIn first now content) (order : now ≤ later) :
    story.ReadIn first later content := by
  obtain ⟨moment, since, before, reads⟩ := readIn
  exact ⟨moment, since, Nat.le_trans before order, reads⟩

theorem Borrowed.mono (borrowed : story.Borrowed first now content) (order : now ≤ later) :
    story.Borrowed first later content := by
  obtain ⟨moment, key, since, before, rest⟩ := borrowed
  exact ⟨moment, key, since, Nat.le_trans before order, rest⟩

theorem Fresh.mono {ε : Type} {found : Except ε Report} (fresh : story.Fresh first now found)
    (order : now ≤ later) : story.Fresh first later found := by
  intro report ok
  obtain ⟨content, drawn, readIn | borrowed⟩ := fresh report ok
  · exact ⟨content, drawn, .inl (readIn.mono order)⟩
  · exact ⟨content, drawn, .inr (borrowed.mono order)⟩

/-- A failure tells of nothing. -/
theorem fresh_error {ε : Type} (error : ε) :
    story.Fresh first last (.error error : Except ε Report) := by
  intro report ok
  cases ok

/-- What is found in the script as it is now is fresh. -/
theorem fresh_drawAt (order : first ≤ now) :
    story.Fresh first now (story.scene.session.profile.drawAt (story.host now) story.path) := by
  cases read : readScript (story.host now).files (story.host now).cwd story.path with
  | ok content =>
      rw [Profile.drawAt, read]
      exact fun _ ok => ⟨content, ok, .inl ⟨now, order, Nat.le_refl now, read⟩⟩
  | error error =>
      rw [Profile.drawAt, read]
      exact fresh_error _

theorem ReadIn.fresh (readIn : story.ReadIn first now content) :
    story.Fresh first now (story.draw content) :=
  fun _ ok => ⟨content, ok, .inl readIn⟩

/-- What a load has in hand for a key that the script has now is fresh. -/
theorem Known.fresh_of_leads (known : story.Known now) {index : Nat} {task : Task} {ticket : Ticket}
    (there : (story.after now).tasks[index]? = some task)
    (leads : task.stage.leads? = some ticket) (slot : ticket.slot = ⟨key, false⟩)
    (carries : story.scene.session.profile.carried? task.stage = some (ticket, result))
    (order : first ≤ now) (keyIn : story.KeyIn first now key) : story.Fresh first now result := by
  rintro report rfl
  obtain ⟨earlier, content, before, made, reads, drawn⟩ :=
    (known.informs index task there).backs carries (by rw [slot]) report rfl
  rw [slot] at made
  refine ⟨content, drawn, .inr ⟨now, key, order, Nat.le_refl now, keyIn, ?_, earlier, before, made,
    reads⟩⟩
  exact ⟨index, task, ticket, there, leads, slot, by rw [carries, drawn]⟩

/-- What a caller joins will be kept with something fresh. -/
theorem Known.awaited_joined (known : story.Known now) {id : Nat}
    (flying : (⟨key, false⟩, id) ∈ (story.after now).scene.session.inFlight)
    (order : first ≤ now) (keyIn : story.KeyIn first now key) :
    story.Awaited first now ⟨⟨key, false⟩, id⟩ := by
  constructor
  · intro index task result there carries
    have owes := Profile.owes_of_carried carries
    have minds := known.shared.minds index task there
    cases leads : task.stage.leads? with
    | none => exact absurd flying (minds.landed _ leads owes _)
    | some held =>
        obtain rfl : _ = held := Option.some.inj (owes.symm.trans (Stage.owes_of_leads leads))
        exact known.fresh_of_leads there leads rfl carries order keyIn
  · intro led result kept
    obtain ⟨_, unkept⟩ := known.shared.aloft.flying _ _ flying
    rw [unkept] at kept
    cases kept

/-- Nobody has a promise in hand that has not been made. -/
theorem Known.awaited_promised (known : story.Known now) :
    story.Awaited first now ⟨slot, (story.after now).scene.session.promises.length⟩ := by
  constructor
  · intro index task result there carries
    have owed := (known.shared.minds index task there).owes _ (Profile.owes_of_carried carries)
    exact absurd (lt_of_getElem?_promises owed) (Nat.lt_irrefl _)
  · intro led result kept
    exact absurd (lt_of_getElem?_promises kept) (Nat.lt_irrefl _)

/-- What somebody waits for stays fresh, whatever happens next. -/
theorem Awaited.succ {ticket : Ticket} (awaited : story.Awaited first now ticket)
    (known : story.Known now) (inside : now < story.events.length) (order : first ≤ now)
    (forced : ticket.slot.reuse = false) : story.Awaited first (now + 1) ticket := by
  have step := story.after_succ inside
  have later : now ≤ now + 1 := Nat.le_succ now
  constructor
  · intro index task result there carries
    rw [step] at there
    rcases Traffic.stage_next there with start | ⟨old, before, same | move | act⟩
    · rw [start] at carries
      cases carries
    · rw [same] at carries
      exact (awaited.carried index old result before carries).mono later
    · rcases move.carried known.profile carries with
        same | ⟨errand, reading, rfl⟩ | ⟨errand, looking⟩
      · exact (awaited.carried index old result before same).mono later
      · rw [known.works index old before errand (by rw [reading]; rfl)]
        exact (fresh_drawAt order).mono later
      · have cached := known.informs index old before
        rw [looking] at cached
        rw [cached.1] at forced
        cases forced
    · have owes := Profile.owes_of_carried carries
      rw [act.owes] at owes
      cases owes
  · intro led result kept
    rw [step] at kept
    rcases (story.after now).rests_or_advances story.events[now] with
      rests | ⟨index, task, -, there, advances⟩
    · rw [rests.session] at kept
      exact (awaited.kept led result kept).mono later
    · rw [advances, Traffic.scene_advance] at kept
      rcases (Task.handling_next _ task).kept kept with before | ⟨errand, publishing⟩
      · exact (awaited.kept led result before).mono later
      · refine (awaited.carried index task result there ?_).mono later
        rw [publishing]
        rfl

/-! ## A load without the cache -/

variable (story) in
/-- What holds of a load that the cache may not answer, from the moment it begins: its key and what
it works with are no older. -/
def Heeds (kind : LoadKind) (first now : Nat) : Stage → Prop
  | .start | .makeKey _ | .read _ _ => True
  | .drop _ key | .join _ key => story.KeyIn first now key
  | .await _ ticket => ticket.slot.reuse = false ∧ story.Awaited first now ticket
  | .callSource _ _ content | .extract _ _ content => story.ReadIn first now content
  | .keep _ _ report => story.Fresh first now (.ok report : Except ExtractionError Report)
  | .leave _ _ result | .publish _ _ result | .finish _ result => story.Fresh first now result
  | .done answer => ∃ found : Except SessionError Report,
      answer = kind.answer found ∧ story.Fresh first now found
  | _ => False

variable {kind : LoadKind}

theorem Heeds.succ (heeds : story.Heeds kind first now stage) (known : story.Known now)
    (inside : now < story.events.length) (order : first ≤ now) :
    story.Heeds kind first (now + 1) stage := by
  have later : now ≤ now + 1 := Nat.le_succ now
  cases stage with
  | start | makeKey | read => trivial
  | drop | join => exact KeyIn.mono heeds later
  | await errand ticket => exact ⟨heeds.1, heeds.2.succ known inside order heeds.1⟩
  | callSource | extract => exact ReadIn.mono heeds later
  | keep | leave | publish | finish => exact Fresh.mono heeds later
  | done answer =>
      obtain ⟨found, answers, fresh⟩ := heeds
      exact ⟨found, answers, fresh.mono later⟩
  | resolve | settle | startLoad | lookUp | lookAgain | spawn | watch | conclude => exact heeds

theorem heeds_extracted {errand : Errand} {held : Option Ticket}
    (fresh : story.Fresh first now result) :
    story.Heeds kind first now (Scene.extracted errand held result) := by
  cases held with
  | none => exact fresh
  | some held => cases result <;> exact fresh

/-- A step of a load that the cache may not answer. -/
theorem Known.heeds_move (known : story.Known now) (order : first ≤ now) {there : Scene}
    (move : Move (story.after now).scene stage there next)
    (heeds : story.Heeds kind first now stage) (minds : stage.Minds (story.after now).scene.session)
    (works : ∀ errand, stage.errand? = some errand →
      errand.path = story.path ∧ errand.kind ≠ .cached) :
    story.Heeds kind first now next := by
  cases move with
  | @keyed errand key made =>
      obtain ⟨path, forced⟩ := works errand rfl
      have keyIn : story.KeyIn first now key := by
        refine ⟨now, order, Nat.le_refl now, ?_⟩
        rw [Keys, Session.keyOf, ← known.profile, ← path]
        exact made
      unfold Errand.keyed
      cases kind : errand.kind with
      | cached => exact absurd kind forced
      | fresh | reload => exact keyIn
  | keyless => trivial
  | hit | missed | lateHit | missedAgain => exact absurd heeds not_false
  | dropped => exact heeds
  | @joined errand key id flying =>
      have reuse : errand.reuse = false := decide_eq_false (works errand rfl).2
      rw [reuse] at flying ⊢
      exact ⟨rfl, known.awaited_joined (mem_of_lookup_eq_some flying) order heeds⟩
  | @promised errand key =>
      exact ⟨decide_eq_false (works errand rfl).2, known.awaited_promised⟩
  | @handed errand ticket slot led result kept =>
      obtain rfl : slot = ticket.slot := (minds.awaits ticket rfl).slot_eq kept
      exact heeds.2.kept led result kept
  | @led errand ticket =>
      have reuse : errand.reuse = false := decide_eq_false (works errand rfl).2
      rw [reuse]
      trivial
  | waited => exact heeds
  | @opened errand ticket content read =>
      rw [(works errand rfl).1] at read
      exact ⟨now, order, Nat.le_refl now, read⟩
  | unreadable => exact heeds_extracted (fresh_error _)
  | called => exact heeds
  | @drawn errand ticket content =>
      rw [known.profile]
      exact heeds_extracted (ReadIn.fresh heeds)
  | stored | left | published => exact heeds

/-- A load heeds where it begins and where it ends. -/
theorem heeds_act {request : Request} {scene there : Scene} (asked : request.kind? = some kind)
    (act : Act request scene stage there next) (heeds : story.Heeds kind first now stage)
    (loads : ∀ errand, stage.errand? = some errand → errand.kind = kind) :
    story.Heeds kind first now next := by
  cases act with
  | repointed points =>
      rw [Request.target_of_kind (by rw [asked]; rfl)] at points
      cases points
  | @refused stage other begins =>
      cases stage with
      | start =>
          obtain rfl : kind = other := Option.some.inj (asked.symm.trans begins)
          exact ⟨_, rfl, fresh_error _⟩
      | startLoad => exact absurd heeds not_false
      | _ => cases begins
  | begun => trivial
  | @recorded errand result =>
      refine ⟨_, by rw [loads errand rfl], ?_⟩
      intro report ok
      cases result with
      | ok found =>
          cases ok
          exact heeds report rfl
      | error error => cases ok
  | @discarded errand result =>
      refine ⟨_, by rw [loads errand rfl], ?_⟩
      cases result <;> exact fresh_error _
  | listed runs | unlisted runs =>
      rw [runs] at asked
      cases asked
  | rested => exact heeds
  | @ended stage _ _ _ calls =>
      cases stage with
      | spawn | watch => exact absurd heeds not_false
      | _ => cases calls
  | resolved | located | overtaken | spawned | watched | concluded => exact absurd heeds not_false

variable (story) in
/-- How far a load that the cache may not answer has come since it began. -/
structure Heeding (kind : LoadKind) (first now caller : Nat) (task : Task) : Prop where
  there : (story.after now).tasks[caller]? = some task
  asked : task.request.kind? = some kind
  loads : ∀ errand, task.stage.errand? = some errand → errand.kind = kind
  heeds : story.Heeds kind first now task.stage

/-- The errand of a load is of the kind that was asked for. -/
theorem errand_act {request : Request} {scene there : Scene} (asked : request.kind? = some kind)
    (act : Act request scene stage there next) (heeds : story.Heeds kind first now stage) :
    ∀ errand, next.errand? = some errand → errand.kind = kind := by
  intro errand loads
  cases act with
  | @begun stage other location begins =>
      cases loads
      cases stage with
      | start => exact Option.some.inj (begins.symm.trans asked)
      | startLoad => exact absurd heeds not_false
      | _ => cases begins
  | located | overtaken =>
      rw [errand_configured] at loads
      cases loads
  | repointed | resolved | refused | recorded | discarded | listed | unlisted | spawned | watched
  | ended | concluded | rested => cases loads

/-- A load that the cache may not answer heeds after every event, whoever does the next step. -/
theorem Heeding.succ {caller : Nat} {task : Task}
    (heeding : story.Heeding kind first now caller task) (forced : kind ≠ .cached)
    (known : story.Known now) (inside : now < story.events.length) (order : first ≤ now) :
    ∃ later, story.Heeding kind first (now + 1) caller later := by
  obtain ⟨there, asked, loads, heeds⟩ := heeding
  have step := story.after_succ inside
  rcases (story.after now).rests_or_advances story.events[now] with
    rests | ⟨index, moving, -, moves, advances⟩
  · obtain ⟨later, found, stage⟩ := rests.kept caller task there
    refine ⟨later, step ▸ found, (rests.request there found) ▸ asked, ?_, ?_⟩
    · rw [stage]
      exact loads
    · rw [stage]
      exact heeds.succ known inside order
  · by_cases same : index = caller
    · subst same
      obtain rfl : moving = task := Option.some.inj (moves.symm.trans there)
      refine ⟨{ moving with stage := (moving.next (story.after now).scene).2 }, ?_, asked, ?_, ?_⟩
      · rw [step, advances]
        exact Traffic.getElem?_advance_self there
      · rcases moving.move_or_act (story.after now).scene with move | act
        · obtain ⟨errand, before, after⟩ := move.exists_errand
          rintro other now
          cases after.symm.trans now
          exact loads errand before
        · exact errand_act asked act heeds
      · refine Heeds.succ ?_ known inside order
        rcases moving.move_or_act (story.after now).scene with move | act
        · exact known.heeds_move order move heeds (known.shared.minds index moving there)
            fun errand under => ⟨known.works index moving there errand under,
              loads errand under ▸ forced⟩
        · exact heeds_act asked act heeds loads
    · refine ⟨task, ?_, asked, loads, heeds.succ known inside order⟩
      rw [step, advances]
      exact (Traffic.getElem?_advance_of_ne same).trans there

/-- A load that the cache may not answer heeds from the moment it begins to every later one. -/
theorem Heeding.run {caller : Nat} {task : Task}
    (heeding : story.Heeding kind first first caller task) (forced : kind ≠ .cached)
    (steady : story.Steady) (order : first ≤ now) (inside : now ≤ story.events.length) :
    ∃ later, story.Heeding kind first now caller later := by
  induction order with
  | refl => exact ⟨task, heeding⟩
  | @step now order ih =>
      obtain ⟨later, heeding⟩ := ih (Nat.le_of_succ_le inside)
      exact heeding.succ forced (known steady (Nat.le_of_succ_le inside)) inside order

/-! ## Keys that tell the time -/

variable (story) in
/-- The time of the script's last change does not go back, and the script stays as it is for as long
as that time does. -/
structure Dated : Prop where
  forth : ∀ {sooner later : Nat} {time moment : Int}, sooner ≤ later →
    later ≤ story.events.length → scriptTime (story.host sooner) story.path = .ok time →
      scriptTime (story.host later) story.path = .ok moment → keyTime time ≤ keyTime moment
  steady : ∀ {sooner later : Nat} {time moment : Int} {content : String}, sooner ≤ later →
    later ≤ story.events.length → scriptTime (story.host sooner) story.path = .ok time →
      scriptTime (story.host later) story.path = .ok moment → keyTime time = keyTime moment →
        story.Reads sooner content → story.Reads later content

/-- Nothing tells another time while nothing is changed. -/
theorem dated_of_host_eq (same : ∀ now ≤ story.events.length, story.host now = story.host 0) :
    story.Dated := by
  constructor
  · intro sooner later time moment order inside first second
    rw [same later inside, ← same sooner (Nat.le_trans order inside), first] at second
    cases second
    exact Nat.le_refl _
  · intro sooner later time moment content order inside first second equal reads
    rw [Reads, same later inside, ← same sooner (Nat.le_trans order inside)]
    exact reads

/-- A key that tells the time tells that of the script at its moment. -/
theorem exists_time_of_keys (modified : story.scene.session.profile.keyMode = .modified)
    (keys : story.Keys now key) :
    ∃ time, scriptTime (story.host now) story.path = .ok time ∧
      key = keyAt story.scene.session.profile.keyPrefix .modified story.path (keyTime time) :=
  exists_time_of_keyOf modified keys

theorem exists_time_of_reads (reads : story.Reads now content) :
    ∃ time, scriptTime (story.host now) story.path = .ok time := by
  obtain ⟨place, item, found⟩ := exists_find_of_readScript reads
  rw [scriptTime, found]
  cases item <;> exact ⟨_, rfl⟩

/-- What is lent under an honest time is still in the script when its key is made. -/
theorem Borrowed.readIn (borrowed : story.Borrowed first last content)
    (inside : last ≤ story.events.length) (dated : story.Dated)
    (modified : story.scene.session.profile.keyMode = .modified) :
    story.ReadIn first last content := by
  obtain ⟨now, key, since, before, ⟨own, began, made, keys⟩, -, earlier, past,
    ⟨others, -, sooner, made'⟩, reads⟩ := borrowed
  obtain ⟨time, known, rfl⟩ := exists_time_of_keys modified keys
  obtain ⟨moment, known', same⟩ := exists_time_of_keys modified made'
  obtain ⟨between, found⟩ := exists_time_of_reads reads
  rcases Nat.le_total earlier own with order | order
  · -- the time was the same when the other load made its key, and so all the while
    have equal : keyTime time = keyTime moment := (keyAt_eq_iff.mp same).2 rfl
    have end' : own ≤ story.events.length := Nat.le_trans (Nat.le_trans made before) inside
    have low := dated.forth sooner (Nat.le_trans order end') known' found
    have high := dated.forth order end' found known
    refine ⟨own, began, Nat.le_trans made before, dated.steady order end' found known ?_ reads⟩
    omega
  · exact ⟨earlier, Nat.le_trans began order, Nat.le_trans past before, reads⟩

/-- What is told of a load that the cache may not answer is fresh. -/
theorem fresh_of_told (steady : story.Steady) {began ended caller : Nat} {task finished : Task}
    {told : Report} (order : began ≤ ended) (inside : ended ≤ story.events.length)
    (there : (story.after began).tasks[caller]? = some task) (begins : task.stage = .start)
    (asked : task.request.kind? = some kind) (forced : kind ≠ .cached)
    (ends : (story.after ended).tasks[caller]? = some finished)
    (answered : finished.stage = .done (kind.answer (.ok told))) :
    ∃ report, kind.answer (.ok report) = kind.answer (.ok told) ∧
      story.Recent began ended report := by
  have heeding : story.Heeding kind began began caller task := by
    refine ⟨there, asked, ?_, ?_⟩
    · rw [begins]
      intro errand named
      cases named
    · rw [begins]
      trivial
  obtain ⟨final, found, -, -, heeds⟩ := heeding.run forced steady order inside
  obtain rfl : final = finished := Option.some.inj (found.symm.trans ends)
  rw [answered] at heeds
  obtain ⟨result, answers, fresh⟩ := heeds
  obtain ⟨report, rfl⟩ := kind.exists_of_answer_ok answers
  exact ⟨report, answers.symm, fresh report rfl⟩

end Story

/-- A load that the cache may not answer, and that ends well, tells names of something that the script
held since the load began, or that another such load had in hand since then, for a key that was the
script's own. If keys tell the time of the last change, and that time is honest, the names are of
something that the script held since the load began. -/
theorem forced_load_is_fresh {story : Story} (steady : story.Steady) {began ended caller : Nat}
    {kind : LoadKind} {task later : Task} {told : Report} (order : began ≤ ended)
    (inside : ended ≤ story.events.length)
    (there : (story.after began).tasks[caller]? = some task) (begins : task.stage = .start)
    (asked : task.request.kind? = some kind) (forced : kind ≠ .cached)
    (ends : (story.after ended).tasks[caller]? = some later)
    (answered : later.stage = .done (kind.answer (.ok told))) :
    ∃ report content, kind.answer (.ok report) = kind.answer (.ok told) ∧
      story.draw content = .ok report ∧
      (story.ReadIn began ended content ∨ story.Borrowed began ended content) ∧
      (story.scene.session.profile.keyMode = .modified → story.Dated →
        story.ReadIn began ended content) := by
  obtain ⟨report, same, content, drawn, source⟩ :=
    Story.fresh_of_told steady order inside there begins asked forced ends answered
  refine ⟨report, content, same, drawn, source, ?_⟩
  intro modified dated
  rcases source with readIn | borrowed
  · exact readIn
  · exact borrowed.readIn inside dated modified

/-- A load alone, with keys that tell the time. -/
def Story.alone (content : String) : Story where
  scene := ⟨(Session.start (.ofSettings .defaults)).pointed "/s" (.ok ⟨"/s", onlyScript⟩),
    .bare (.withScript content 5)⟩
  path := onlyScript
  events := .ask (.load true) :: List.replicate 13 (.go 0)

theorem Story.loads_alone (content : String) : ∀ event ∈ (alone content).events, event.Loads := by
  intro event member
  rcases List.mem_cons.mp member with rfl | again
  · rfl
  · rw [List.eq_of_mem_replicate again]
    trivial

theorem Story.steady_alone (content : String) : (alone content).Steady where
  rest := ⟨rfl, nofun⟩
  works := by
    intro location ready
    cases ready
    rfl
  stays event member := (loads_alone content event member).stays

theorem Story.dated_alone (content : String) : (alone content).Dated := by
  refine dated_of_host_eq fun now inside => ?_
  refine Serves.host_eq ⟨⟨[], rfl⟩, loads_alone content⟩ inside (Nat.zero_le now) ?_
  intro moment host _ _ edits
  rcases List.mem_cons.mp (List.mem_of_getElem? edits) with same | again
  · cases same
  · cases List.eq_of_mem_replicate again

/-- The load is answered after fourteen steps with what is in its script. -/
theorem Story.after_alone {content : String} {report : Report}
    (drawn : (Profile.ofSettings .defaults).draw (dropMark content) = .ok report) :
    ((alone content).after 14).tasks[0]? =
      some ⟨.load true, .done (.loaded (.ok report)), false⟩ := by
  have there : [Task.mk (.load true) .start false][0]? = some ⟨.load true, .start, false⟩ := rfl
  obtain ⟨later, promises, more, ended⟩ := Traffic.fresh_answer (alone content).scene.session
    (alone content).scene.world _ [] rfl rfl (Nat.le_refl 13) there rfl rfl
  have found : (alone content).scene.session.profile.drawAt (alone content).scene.world.host
      onlyScript = .ok report := (Host.drawAt_withScript content 5 _).trans drawn
  have played : (alone content).after 14 =
      (List.replicate 13 (.go 0)).foldl Traffic.next
        ⟨(alone content).scene, [.ofRequest (.load true) false], []⟩ := by
    rw [after, alone, List.take_of_length_le (by simp), List.foldl_cons, Traffic.next_ask_quiet]
  rw [found] at ended
  rw [played, Task.ofRequest, ended]
  rfl

/-- A load alone, with keys that tell the time, tells what the script holds. -/
theorem forced_load_is_fresh_alone :
    ∃ report content, LoadKind.fresh.answer (.ok report) =
        LoadKind.fresh.answer (.ok ⟨["A"], .extracted .structural⟩) ∧
      (Story.alone "function A \x7b\x7d").draw content = .ok report ∧
        (Story.alone "function A \x7b\x7d").ReadIn 1 14 content := by
  have drawn : (Profile.ofSettings .defaults).draw (dropMark "function A \x7b\x7d") =
      .ok ⟨["A"], .extracted .structural⟩ := by decide +kernel
  obtain ⟨report, content, same, found, -, held⟩ :=
    @forced_load_is_fresh _ (Story.steady_alone "function A \x7b\x7d") 1 14 0 .fresh
      (.ofRequest (.load true) false) _ _ (by decide) (by decide) rfl rfl rfl nofun
      (Story.after_alone drawn) rfl
  exact ⟨report, content, same, found, held rfl (Story.dated_alone _)⟩

/-! ## A load that is handed what the script held before -/

/-- A load that the cache may not answer, alone, has read its script in five steps, with its promise
in flight. -/
theorem Traffic.leader_reads (session : Session) (world : World) {location : Location}
    {key content : String} (ready : session.path = .ready location)
    (made : session.keyOf world.host location.resolved = .ok key) (rest : session.inFlight = [])
    (read : readScript world.host.files world.host.cwd location.resolved = .ok content) :
    (.ask (.load true) :: List.replicate 5 (.go 0)).foldl Traffic.next (.quiet ⟨session, world⟩) =
      ⟨⟨Session.leading { session with load := .loading } ⟨key, false⟩, world⟩,
        [⟨.load true, .callSource ⟨.fresh, location.resolved, session.generation⟩
          (some (session.nextTicket ⟨key, false⟩)) content, false⟩],
        [(location.resolved, content)]⟩ := by
  have second : (Task.mk (.load true)
      (.makeKey ⟨.fresh, location.resolved, session.generation⟩) false).next
        ⟨{ session with load := .loading }, world⟩ =
      (⟨{ session with load := .loading }, world⟩,
        .join ⟨.fresh, location.resolved, session.generation⟩ key) :=
    Scene.makeKey_of_key ⟨{ session with load := .loading }, world⟩ _ made
  have third : (Task.mk (.load true)
      (.join ⟨.fresh, location.resolved, session.generation⟩ key) false).next
        ⟨{ session with load := .loading }, world⟩ =
      (⟨Session.promising { session with load := .loading } ⟨key, false⟩, world⟩,
        .await ⟨.fresh, location.resolved, session.generation⟩
          (session.nextTicket ⟨key, false⟩)) :=
    Scene.join_of_none ⟨{ session with load := .loading }, world⟩ _ (by rw [rest]; rfl)
  have free : (Session.promising { session with load := .loading } ⟨key, false⟩).promises[
      session.promises.length]? = some ⟨⟨key, false⟩, false, none⟩ := List.getElem?_concat_length
  have fourth : (Task.mk (.load true)
      (.await ⟨.fresh, location.resolved, session.generation⟩
        (session.nextTicket ⟨key, false⟩)) false).next
        ⟨Session.promising { session with load := .loading } ⟨key, false⟩, world⟩ =
      (⟨Session.leading { session with load := .loading } ⟨key, false⟩, world⟩,
        .read ⟨.fresh, location.resolved, session.generation⟩
          (some (session.nextTicket ⟨key, false⟩))) :=
    Scene.await_free ⟨Session.promising { session with load := .loading } ⟨key, false⟩, world⟩ _ _
      free
  have fifth : (Task.mk (.load true)
      (.read ⟨.fresh, location.resolved, session.generation⟩
        (some (session.nextTicket ⟨key, false⟩))) false).next
        ⟨Session.leading { session with load := .loading } ⟨key, false⟩, world⟩ =
      (⟨Session.leading { session with load := .loading } ⟨key, false⟩, world⟩,
        .callSource ⟨.fresh, location.resolved, session.generation⟩
          (some (session.nextTicket ⟨key, false⟩)) content) :=
    Scene.read_ok ⟨Session.leading { session with load := .loading } ⟨key, false⟩, world⟩ _ read
  rw [show Event.ask (.load true) :: List.replicate 5 (.go 0) =
      [.ask (.load true), .go 0] ++ [.go 0, .go 0, .go 0, .go 0] from rfl, List.foldl_append,
    Traffic.load_begins session world ready, List.foldl_cons, Traffic.go_first second rfl,
    List.foldl_cons, Traffic.go_first third rfl, List.foldl_cons, Traffic.go_first fourth rfl,
    List.foldl_cons, List.foldl_nil]
  simp only [Traffic.next, Traffic.advance, Task.step, fifth, Task.readings, read,
    List.getElem?_cons_zero, List.set_cons_zero, List.nil_append]

/-- A load goes on until it has read its script. -/
def Story.taking : List Event := .ask (.load true) :: List.replicate 5 (.go 0)

/-- A story that begins with a load, which has read a script when the rest of the story begins. -/
def Story.afterReading (content : String) (rest : List Event) : Story where
  scene := .ofScript content
  path := onlyScript
  events := taking ++ rest

/-- What has come of a load that has read its script. -/
def Traffic.reader (content : String) : Traffic :=
  ⟨⟨Session.leading { (Scene.ofScript content).session with load := .loading }
        ⟨"psfunc-functions-/s", false⟩, (Scene.ofScript content).world⟩,
    [⟨.load true, .callSource ⟨.fresh, onlyScript, 1⟩
      (some ⟨⟨"psfunc-functions-/s", false⟩, 0⟩) (dropMark content), false⟩],
    [(onlyScript, dropMark content)]⟩

namespace Story

variable {content : String} {rest : List Event}

/-- The rest of the story goes on from where the load has read its script. -/
theorem after_afterReading (content : String) (rest : List Event) (n : Nat) :
    (afterReading content rest).after (6 + n) =
      (rest.take n).foldl Traffic.next (.reader content) := by
  have letters : "psfunc-functions" ++ "-" ++ onlyScript.display = "psfunc-functions-/s" := by
    decide +kernel
  have made : (Scene.ofScript content).session.keyOf (Scene.ofScript content).world.host onlyScript =
      .ok "psfunc-functions-/s" := congrArg Except.ok letters
  have first : taking.foldl Traffic.next (.quiet (.ofScript content)) = .reader content :=
    @Traffic.leader_reads (Scene.ofScript content).session (Scene.ofScript content).world
      ⟨"/s", onlyScript⟩ _ _ rfl made rfl (Host.readScript_withScript _ _)
  have split : (afterReading content rest).events.take (6 + n) = taking ++ rest.take n :=
    @List.take_length_add_append _ taking rest n
  rw [after, split, List.foldl_append]
  exact congrArg (fun traffic => (rest.take n).foldl Traffic.next traffic) first

theorem loads_afterReading (loads : ∀ event ∈ rest, event.Loads) :
    ∀ event ∈ (afterReading content rest).events, event.Loads := by
  intro event member
  rcases List.mem_append.mp member with first | later
  · rcases List.mem_cons.mp first with rfl | again
    · rfl
    · rw [List.eq_of_mem_replicate again]
      trivial
  · exact loads event later

theorem serves_afterReading (loads : ∀ event ∈ rest, event.Loads) :
    (afterReading content rest).Serves := ⟨⟨[], rfl⟩, loads_afterReading loads⟩

theorem steady_afterReading (loads : ∀ event ∈ rest, event.Loads) :
    (afterReading content rest).Steady where
  rest := Scene.atRest_ofScript _
  works := by
    intro location ready
    cases ready
    rfl
  stays event member := (loads_afterReading loads event member).stays

end Story

/-- What happens after a load has read its script: the script is changed, and another load begins
and joins the first one. -/
def Story.lending : List Event :=
  .edit (.withScript "function New \x7b\x7d" 6) :: .ask (.load true) ::
    (List.replicate 3 (.go 1) ++ List.replicate 5 (.go 0) ++ List.replicate 2 (.go 1))

/-- A load begins right after the script has been changed under another one, which has read it. -/
def Story.lent : Story := afterReading "function Old \x7b\x7d" lending

/-- What is told of a load that has ended well. -/
def Stage.told? : Stage → Option Report
  | .done (.loaded (.ok report)) => some report
  | _ => none

theorem Stage.eq_of_told {stage : Stage} {report : Report} (told : stage.told? = some report) :
    stage = .done (LoadKind.fresh.answer (.ok report)) := by
  cases stage with
  | done answer =>
      cases answer with
      | loaded result =>
          cases result with
          | ok found =>
              cases told
              rfl
          | error error => cases told
      | _ => cases told
  | _ => cases told

namespace Story

theorem loads_lending : ∀ event ∈ lending, event.Loads := by
  simp [lending, Event.Loads, Request.kind?, or_imp, forall_and]

/-- The second load is handed what the script held before it began. -/
theorem told_lent : ∃ task, (lent.after 18).tasks[1]? = some task ∧
    task.stage = .done (LoadKind.fresh.answer (.ok ⟨["Old"], .extracted .structural⟩)) := by
  have told : ((lending.take 12).foldl Traffic.next
      (.reader "function Old \x7b\x7d")).tasks.map (·.stage.told?) =
        [none, some ⟨["Old"], .extracted .structural⟩] := by decide +kernel
  rw [← after_afterReading] at told
  obtain ⟨task, there, found⟩ := @Traffic.exists_of_map _ _ _ _ told 1 _ rfl
  exact ⟨task, there, Stage.eq_of_told found⟩

/-- The script has been changed when the second load begins, and stays so. -/
theorem reads_lent {now : Nat} {content : String} (began : 8 ≤ now) (inside : now ≤ 18)
    (reads : lent.Reads now content) : content = dropMark "function New \x7b\x7d" := by
  have still : lent.host now = lent.host 8 := by
    refine (serves_afterReading loads_lending).host_eq inside began ?_
    intro moment host since _ edits
    obtain ⟨more, rfl⟩ := Nat.exists_eq_add_of_le since
    rw [← List.getElem?_drop] at edits
    have member := List.mem_of_getElem? edits
    simp [afterReading, taking, lending] at member
  have edited : lent.host 8 = .withScript "function New \x7b\x7d" 6 := by
    rw [host, lent, after_afterReading _ _ 2]
    rfl
  rw [Reads, still, edited] at reads
  exact Except.ok.inj (reads.symm.trans (Host.readScript_withScript _ _))

end Story

/-- A load that began after the script was changed may tell what the script held before. -/
theorem lent_load_is_stale :
    ¬ ∀ (story : Story) (began ended caller : Nat) (kind : LoadKind) (task later : Task)
      (told : Report), story.Steady → began ≤ ended → ended ≤ story.events.length →
        (story.after began).tasks[caller]? = some task → task.stage = .start →
          task.request.kind? = some kind → kind ≠ .cached →
            (story.after ended).tasks[caller]? = some later →
              later.stage = .done (kind.answer (.ok told)) →
                ∃ report content, kind.answer (.ok report) = kind.answer (.ok told) ∧
                  story.draw content = .ok report ∧ story.ReadIn began ended content := by
  intro claim
  obtain ⟨later, ends, answered⟩ := Story.told_lent
  have there : (Story.lent.after 8).tasks[1]? = some (.ofRequest (.load true) false) := by
    rw [Story.lent, Story.after_afterReading _ _ 2]
    rfl
  obtain ⟨report, content, same, drawn, moment, since, before, reads⟩ :=
    claim Story.lent 8 18 1 .fresh _ later _ (Story.steady_afterReading Story.loads_lending)
      (by decide) (by decide) there rfl rfl nofun ends answered
  rw [Story.reads_lent since before reads] at drawn
  have found : Story.lent.draw (dropMark "function New \x7b\x7d") =
      .ok ⟨["New"], .extracted .structural⟩ := by decide +kernel
  rw [found] at drawn
  cases drawn
  simp [LoadKind.answer] at same

end ScriptRoster
