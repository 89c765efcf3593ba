import PxeLaunch.Profile.Summary
import PxeLaunch.Project.Diagnosis
import PxeLaunch.Project.Scaffold
import PxeLaunch.Request.Arguments

/-!
Answering requests. An answer is what is shown and what is left behind; whoever asked gets a code to
exit with.
-/

set_option autoImplicit false

namespace PxeLaunch

/-- Where a request is made: the machine, its files, the folder that the user is in, and what comes
in on the standard input. -/
structure Session where
  host : Host
  files : Files
  dir : Path
  stdin : Bytes

/-- What comes of a request: the files after it, what is shown on the two outputs, and the code to
exit with. -/
structure Response where
  files : Files
  stdout : Bytes
  stderr : Bytes
  result : Except ProjectError Int

namespace Response

/-- Only a text is shown. -/
def text (files : Files) (shown : String) : Response := ⟨files, .ofString shown, [], .ok 0⟩

/-- Nothing is shown but an error. -/
def failure (files : Files) (e : ProjectError) : Response := ⟨files, [], [], .error e⟩

/-- The response to a question whose answer is a text. -/
def ofText (files : Files) : Except ProjectError String → Response
  | .ok shown => text files shown
  | .error e => failure files e

/-- The code to exit with. -/
def exitCode (r : Response) : Int :=
  match r.result with
  | .ok code => code
  | .error e => e.exitCode

/-- What is shown as an error, which the error that ended the request comes last in. -/
def complaint (r : Response) : Bytes :=
  r.stderr ++ match r.result with
    | .ok _ => []
    | .error e => Bytes.ofString s!"error: {e.message}\n"

end Response

namespace Session

/-- The profile of an architecture, supported or not. -/
def profileOf (r : Registry) (a : Architecture) (hint : String) : Except ProjectError Profile :=
  match r.get? a with
  | some p => .ok p
  | none => .error (.plain s!"no profile registered for {a.name}{hint}")

/-- One profile in a format. -/
def described (s : Session) (project : Project) (a : Architecture) (format : String) :
    Except ProjectError String := do
  let r ← project.registry s.files
  let p ← profileOf r a ". Use 'netboot profiles list' to see them."
  match format with
  | "text" => return p.description project.dir
  | "toml" => ProjectError.ofProfile p.toToml
  | _ => .error (.plain s!"unknown format '{format}' (expected text or toml)")

/-- Whether a file holds a valid profile. All issues are shown if it does not. -/
def validate (s : Session) (file : Path) : Response :=
  match Profile.load s.files file with
  | .error e => .failure s.files (.ofCause (.profile e))
  | .ok p =>
    if p.isValid then .text s.files s!"{file.display}: ok ({p.architecture.name})\n"
    else
      let rows := p.issues.map fun i => s!"  {i.severity.name}: {i.message}"
      { Response.text s.files (Lines.ofList rows) with
        result := .error (.plain s!"{file.display} has {p.issues.length} issue(s)") }

/-- Shows the input without the noise of an architecture. -/
def filterInput (s : Session) (project : Project) (a : Architecture) : Response :=
  let prepared : Except ProjectError Noise.Filter := do
    let p ← profileOf (← project.registry s.files) a ""
    ProjectError.ofLaunch ((Noise.Filter.compile p.noise).mapError fun cause =>
      .misconfigured a (.filter cause))
  match prepared with
  | .error e => .failure s.files e
  | .ok f =>
    let pumped := f.pump none [.data s.stdin]
    ⟨s.files, pumped.writes.flatten, [],
      match pumped.result with
      | .ok _ => .ok 0
      | .error cause => .error (.ofCause (.launch (.stream cause)))⟩

/-- Builds an image and shows what its path is good for. -/
def building (s : Session) (toolchain : Toolchain) (p : Profile)
    (render : Files → Path → Except ProjectError String) : Response :=
  let built := toolchain.build s.host s.files p
  let result : Except ProjectError String := do
    render built.files (← ProjectError.ofLaunch built.result)
  ⟨built.files, built.stdout ++ (result.toOption.map Bytes.ofString).getD [], built.stderr,
    result.map fun _ => 0⟩

/-- Builds the image of an architecture and shows its path. -/
def build (s : Session) (project : Project) (a : Architecture) (release : Bool) : Response :=
  match project.profile s.files a release false with
  | .error e => .failure s.files e
  | .ok p => s.building project.toolchain p fun _ artifact => .ok (artifact.display ++ "\n")

/-- Builds an image and shows the command that would run it. -/
def rehearse (s : Session) (launch : Launch) : Response :=
  s.building launch.settings.toolchain launch.profile fun files artifact => do
    let invocation ← ProjectError.ofLaunch (launch.plan files s.host.architecture artifact)
    return invocation.commandLine ++ "\n"

/-- Launches an architecture and exits as its emulator does. -/
def launch (s : Session) (launch : Launch) : Response :=
  let launched := Launch.run s.host (launch.supervisor ⟨none, none⟩) s.files s.stdin launch
  ⟨launched.files, launched.buildOutput ++ launched.written.flatten, launched.buildComplaint,
    (ProjectError.ofLaunch launched.result).map Outcome.exitCode⟩

/-- Launches an architecture, or only says how. -/
def run (s : Session) (project : Project) (a : Architecture)
    (release withoutAcceleration dryRun : Bool) : Response :=
  match project.profile s.files a release withoutAcceleration with
  | .error e => .failure s.files e
  | .ok p =>
    let launch := Launch.ofProfile p (project.launchSettings a)
    if dryRun then s.rehearse launch else s.launch launch

/-- Looks over the project. -/
def doctor (s : Session) (project : Project) (only : Option Architecture) : Response :=
  let d := project.diagnose s.host s.files only
  { Response.text d.files d.text with result := d.result.map fun _ => 0 }

/-- Starts a project. -/
def create (s : Session) (name : String) : Response :=
  match Project.create s.files name with
  | (files, .ok ()) => .text files (Project.created name)
  | (files, .error e) => .failure files e

/-- Answers a request about a project. -/
def answerIn (s : Session) (project : Project) : Request → Response
  | .run a release withoutAcceleration dryRun => s.run project a release withoutAcceleration dryRun
  | .build a release => s.build project a release
  | .listProfiles => .ofText s.files ((project.registry s.files).map Profile.table)
  | .describeProfile a format =>
    .ofText s.files (s.described project a (format.getD "text"))
  | .validateProfile file => s.validate file
  | .profileTemplate a => .ofText s.files (ProjectError.ofProfile (Profile.template a))
  | .filter a => s.filterInput project a
  | .doctor only => s.doctor project only
  | .createProject name => s.create name

/-- Answers a request. Unless it needs none, the project is found first. -/
def answer (s : Session) (r : Request) : Response :=
  if r.needsProject then
    match Project.discover s.files s.dir with
    | .ok project => s.answerIn project r
    | .error e => .failure s.files e
  else s.answerIn ⟨s.dir, none⟩ r

/-- What a program leaves behind: files, both outputs and a code. -/
structure Exit where
  files : Files
  stdout : Bytes
  stderr : Bytes
  code : Int

/-- Does what a command line asks for. -/
def obey (s : Session) (args : List Bytes) : Exit :=
  match Arguments.read args with
  | .request r =>
    let response := s.answer r
    ⟨response.files, response.stdout, response.complaint, response.exitCode⟩
  | .version => ⟨s.files, .ofString s!"netboot {Project.version}\n", [], 0⟩
  | .help => ⟨s.files, .ofString Arguments.usage, [], 0⟩
  | .rejected => ⟨s.files, [], .ofString Arguments.usage, 2⟩

end Session

end PxeLaunch
