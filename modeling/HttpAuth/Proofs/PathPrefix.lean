import HttpAuth.Proofs.Line
import HttpAuth.Proofs.TokenExchange

/-!
# Paths in front of a service

Several paths in front of a service are one path: what is left of each without the slashes at its
end, the innermost first.  A line that can be read reaches the service once, with that path in front
of its target, and any other line is refused before the service is asked.  All of this holds of any
way to send requests, and those of services are a case.
-/

namespace HttpAuth

namespace RequestLine

/-- The line with a path in front of its target. -/
def behind (path : Text) (line : RequestLine) : RequestLine :=
  line.withTarget (path ++ line.target)

/-- A path without a question mark stands in front of the path of a line and leaves its query. -/
theorem behind_parts {path : Text} (unmarked : '?' ∉ path) (line : RequestLine) :
    (line.behind path).path = path ++ line.path ∧ (line.behind path).query? = line.query? := by
  have cut_eq : Text.cut '?' (path ++ line.target) =
      (path ++ (Text.cut '?' line.target).1, (Text.cut '?' line.target).2) := by
    induction path with
    | nil => rfl
    | cons c path induction =>
        have different := List.ne_of_not_mem_cons unmarked
        have later := induction (List.not_mem_of_not_mem_cons unmarked)
        rw [List.cons_append, Text.cut, if_neg (Ne.symm different), later]
        rfl
  rw [RequestLine.path, query?, behind, withTarget, cut_eq]
  exact ⟨rfl, rfl⟩

/-- A line that was read is read again with a path in front that has no space. -/
theorem parse_behind {path : Text} (word : ' ' ∉ path) {given : Option Text} {line : RequestLine}
    (read : parse given = .ok line) :
    parse (some (behind path line).text) = .ok (behind path line) := by
  have formed := wellFormed_of_parse read
  have filled := List.append_ne_nil_of_right_ne_nil path formed.filled.2.1
  refine (formed.withTarget filled ?_).parse_text
  rw [List.mem_append, not_or]
  exact ⟨word, formed.words.2.1⟩

end RequestLine

open RequestLine

/-- The paths without the slashes at the end of each. -/
def joinedPaths (paths : List Text) : Text :=
  paths.flatMap (Text.dropTrailing '/')

theorem not_mem_joinedPaths {paths : List Text} {c : Char} (absent : ∀ path ∈ paths, c ∉ path) :
    c ∉ joinedPaths paths := by
  intro member
  obtain ⟨path, listed, inside⟩ := List.mem_flatMap.mp member
  exact absent path listed (Text.mem_of_mem_dropTrailing inside)

theorem getLast?_joinedPaths (paths : List Text) : (joinedPaths paths).getLast? ≠ some '/' := by
  induction paths with
  | nil => nofun
  | cons path paths induction =>
      have last := Text.getLast?_dropTrailing '/' path
      rw [joinedPaths, List.flatMap_cons, List.getLast?_append]
      cases later : (joinedPaths paths).getLast? with
      | none =>
          rw [joinedPaths] at later
          rwa [later, Option.none_or]
      | some c =>
          rw [later] at induction
          rw [joinedPaths] at later
          rwa [later, Option.some_or]

theorem joinedPaths_append (paths others : List Text) :
    joinedPaths (paths ++ others) = joinedPaths paths ++ joinedPaths others :=
  List.flatMap_append

/-- Joined paths have no slash at the end to be removed. -/
theorem joinedPaths_cons_joined (paths others : List Text) :
    joinedPaths (joinedPaths paths :: others) = joinedPaths (paths ++ others) := by
  have kept := Text.dropTrailing_of_getLast? (getLast?_joinedPaths paths)
  rw [joinedPaths_append, joinedPaths, List.flatMap_cons, kept]
  rfl

/-- A path goes in front of the target, without the slashes at its end. -/
theorem Service.lineUnder_eq (path : Text) (line : RequestLine) :
    lineUnder path line = line.behind (joinedPaths [path]) := by
  have whole := Text.cut_append '?' line.target
  rw [lineUnder, behind, joinedPaths, List.flatMap_cons, List.flatMap_nil, List.append_nil,
    List.append_assoc, RequestLine.path, query?]
  cases found : (Text.cut '?' line.target).2 with
  | none | some query =>
      rw [found] at whole
      exact congrArg (fun target => line.withTarget (_ ++ target)) whole

/-! ## Ways to send requests -/

namespace Sender

open Act

variable {World : Type}

/-- Send requests with a path in front of their targets. -/
def under (send : Sender World) (path : Text) : Sender World := fun line headers body => do
  let read ← ofExcept ((parse line).mapError .requestLine)
  send (some (Service.lineUnder path read).text) headers body

/-- Send requests with several paths in front of their targets, the first one innermost. -/
def underAll (send : Sender World) (paths : List Text) : Sender World :=
  paths.foldl under send

/-- Send requests, and note each. -/
def noting (send : Sender World) : Sender (World × List Parties.Call) := fun line headers body =>
  noted (.request line headers body) (send line headers body)

/-- The slashes at the end of a path do not matter. -/
theorem under_congr (send : Sender World) {path other : Text}
    (same : joinedPaths [path] = joinedPaths [other]) : under send path = under send other := by
  have lines (read : RequestLine) : Service.lineUnder path read = Service.lineUnder other read := by
    rw [Service.lineUnder_eq, Service.lineUnder_eq, same]
  unfold under
  simp only [lines]

variable {line : Option Text}

theorem under_of_read (send : Sender World) (path : Text) {read : RequestLine}
    (reading : parse line = .ok read) :
    under send path line = send (some (read.behind (joinedPaths [path])).text) := by
  rw [← Service.lineUnder_eq]
  unfold under
  rw [reading]
  rfl

theorem under_of_error (send : Sender World) (path : Text) {error : Error}
    (reading : parse line = .error error) (headers : Headers) (body : Body) :
    under send path line headers body = throw (.requestLine error) := by
  rw [under, reading]
  rfl

/-- Two paths are one. -/
theorem under_under (send : Sender World) (inner : Text) {outer : Text} (word : ' ' ∉ outer) :
    under (under send inner) outer = under send (joinedPaths [inner, outer]) := by
  have outer_word : ' ' ∉ joinedPaths [outer] :=
    not_mem_joinedPaths fun path member => List.mem_singleton.mp member ▸ word
  have joined : joinedPaths [joinedPaths [inner, outer]] =
      joinedPaths [inner] ++ joinedPaths [outer] :=
    (joinedPaths_cons_joined [inner, outer] []).trans (joinedPaths_append [inner] [outer])
  funext line
  cases reading : parse line with
  | error error =>
      funext headers body
      rw [under_of_error _ _ reading, under_of_error _ _ reading]
  | ok read =>
      rw [under_of_read _ _ reading, under_of_read _ _ (parse_behind outer_word reading),
        under_of_read _ _ reading, joined]
      simp only [behind, withTarget, List.append_assoc]

/-- Paths without spaces are one path, when there are any. -/
theorem underAll_eq_under (send : Sender World) (first : Text) {others : List Text}
    (words : ∀ path ∈ others, ' ' ∉ path) :
    underAll send (first :: others) = under send (joinedPaths (first :: others)) := by
  induction others generalizing first with
  | nil => exact under_congr send (joinedPaths_cons_joined [first] []).symm
  | cons next others induction =>
      have later := induction (joinedPaths [first, next]) fun path member =>
        words path (List.mem_cons_of_mem next member)
      have both := under_under send first (words next List.mem_cons_self)
      calc
        underAll send (first :: next :: others)
          = underAll (under (under send first) next) others := rfl
        _ = underAll send (joinedPaths [first, next] :: others) := by
          rw [both]
          rfl
        _ = under send (joinedPaths (joinedPaths [first, next] :: others)) := later
        _ = under send (joinedPaths (first :: next :: others)) := by
          rw [joinedPaths_cons_joined]
          rfl

end Sender

/-- A service under a path is a case of a way to send requests. -/
theorem Service.respond_under (service : Service) (path : Text) :
    (service.under path).respond = Sender.under service.respond path := by
  funext line headers body
  rw [Service.respond, Sender.under]
  cases parse line <;> rfl

theorem Service.respond_underAll (service : Service) (paths : List Text) :
    (service.underAll paths).respond = Sender.underAll service.respond paths := by
  induction paths generalizing service with
  | nil => rfl
  | cons path paths induction =>
      change ((service.under path).underAll paths).respond = _
      rw [induction, respond_under]
      rfl

namespace Sender

open Act

/-- Several paths without spaces in front of a way to send requests are one path: what is left of
each without the slashes at its end, in order.  A line that can be read is sent once, with its
method in capitals, this path in front of its target, the version, the headers and the body of which
nothing is read, in the world as it was.  That line is read as it is meant, and paths without
question marks leave its query as it was.  Any other line is refused in the world as it was, and
nothing is sent.  Services under several paths are a case. -/
theorem underAll_is_under (first : Text) (others : List Text)
    (words : ∀ path ∈ first :: others, ' ' ∉ path) :
    let paths := first :: others
    (∀ (World : Type) (send : Sender World),
      underAll send paths = under send (joinedPaths paths) ∧
      ∀ line headers body before,
        let call := finish (underAll (noting send) paths line headers body) (before, [])
        match parse line with
        | .error error => call = ((before, []), .error (.requestLine error))
        | .ok read => ∃ method sent,
            Text.pieces ' ' (Text.trim (line.getD [])) = [method, read.target, read.version] ∧
            sent = RequestLine.mk (Text.upper method) (joinedPaths paths ++ read.target)
              read.version ∧
            parse (some sent.text) = .ok sent ∧
            ((∀ path ∈ paths, '?' ∉ path) →
              sent.path = joinedPaths paths ++ read.path ∧ sent.query? = read.query?) ∧
            let (after, outcome) := finish (send (some sent.text) headers body) before
            call = ((after, [.request (some sent.text) headers body]), outcome)) ∧
    ∀ service : Service, (service.underAll paths).respond = underAll service.respond paths := by
  intro paths
  have one {World : Type} (send : Sender World) :
      underAll send paths = under send (joinedPaths paths) :=
    underAll_eq_under send first fun path member => words path (List.mem_cons_of_mem first member)
  refine ⟨fun World send => ⟨one send, fun line headers body before => ?_⟩,
    fun service => service.respond_underAll paths⟩
  rw [one]
  cases reading : parse line with
  | error error =>
      dsimp only
      rw [under_of_error _ _ reading]
      rfl
  | ok read =>
      obtain ⟨method, fields, method_eq, -⟩ := parse_eq_ok reading
      have word : ' ' ∉ joinedPaths paths := not_mem_joinedPaths words
      refine ⟨method, read.behind (joinedPaths paths), fields, ?_, parse_behind word reading,
        fun unmarked => behind_parts (not_mem_joinedPaths unmarked) read, ?_⟩
      · rw [behind, withTarget, method_eq]
      · rw [under_of_read _ _ reading, joinedPaths_cons_joined paths []]
        rw [List.append_nil]
        exact finish_noted _ _ before []

/-- Three paths, one of them all slashes, and a line with blanks around it, a method that grows in
capitals and an empty query. -/
theorem underAll_is_under_slashes :
    let paths := ["/a//".toList, "//".toList, "/b/".toList]
    let send : Sender Network := (Endpoint.party .origin).respond
    let line := "\tgeß x? http/1.0 \n".toList
    let body : Body := .stream [[1], [2]] none
    let network : Network := { origin := { pending := [.response 200 .empty .none none] } }
    let sent := "GESS /a/bx? http/1.0".toList
    (∀ path ∈ paths, ' ' ∉ path) ∧ underAll send paths = under send "/a/b".toList ∧
      ∃ after outcome,
        finish (underAll (noting send) paths (some line) .empty body) (network, []) =
          ((after, [.request (some sent) .empty body]), outcome) := by
  intro paths send line body network sent
  have words : ∀ path ∈ paths, ' ' ∉ path := by decide
  obtain ⟨one, runs⟩ := (underAll_is_under _ _ words).1 Network send
  have reading : parse (some line) = .ok ⟨"GESS".toList, "x?".toList, "http/1.0".toList⟩ :=
    Run.eq_ok_of_toOption (by decide +kernel)
  have run := runs (some line) .empty body network
  rw [reading] at run
  obtain ⟨method, found, fields, rfl, -, -, call⟩ := run
  have split : Text.pieces ' ' (Text.trim ((some line).getD [])) =
      ["geß".toList, "x?".toList, "http/1.0".toList] := by
    decide +kernel
  obtain rfl : method = "geß".toList := (List.cons.inj (fields.symm.trans split)).1
  have text_eq : (RequestLine.mk (Text.upper "geß".toList) (joinedPaths paths ++ "x?".toList)
      "http/1.0".toList).text = sent := by
    decide +kernel
  rw [text_eq] at call
  exact ⟨words, one, _, _, call⟩

end Sender

/-! ## Paths over HTTP -/

theorem Text.head?_dropTrailing (mark : Char) {c : Char} {text : Text}
    (first : text.head? = some c) :
    Text.dropTrailing mark text = [] ∨ (Text.dropTrailing mark text).head? = some c := by
  obtain ⟨marks, text_eq⟩ := Text.exists_dropTrailing_append mark text
  cases kept : Text.dropTrailing mark text with
  | nil => exact .inl rfl
  | cons d rest =>
      rw [text_eq, kept] at first
      exact .inr first

/-- Joined paths start with a slash, unless nothing is left of them. -/
theorem head?_joinedPaths {paths : List Text} (rooted : ∀ path ∈ paths, path.head? = some '/') :
    joinedPaths paths = [] ∨ (joinedPaths paths).head? = some '/' := by
  induction paths with
  | nil => exact .inl rfl
  | cons path paths induction =>
      have later := induction fun other member => rooted other (List.mem_cons_of_mem path member)
      rw [joinedPaths, List.flatMap_cons, ← joinedPaths]
      rcases Text.head?_dropTrailing '/' (rooted path List.mem_cons_self) with nothing | first
      · rwa [nothing, List.nil_append]
      · right
        rw [List.head?_append, first, Option.some_or]

namespace Endpoint

open Run

variable (secure : Bool) (host : Text) (port : Int)

/-- The URL for a target behind paths. -/
theorem url_joinedPaths {paths : List Text} (rooted : ∀ path ∈ paths, path.head? = some '/')
    (target : Text) :
    url secure host port (joinedPaths paths ++ target) =
      base secure host port ++ joinedPaths paths ++
        if joinedPaths paths = [] then urlTarget target else target := by
  rw [url, List.append_assoc]
  rcases head?_joinedPaths rooted with nothing | first
  · rw [if_pos nothing, nothing, List.nil_append, List.nil_append]
  · have filled : joinedPaths paths ≠ [] := by
      rintro nothing
      rw [nothing] at first
      cases first
    rw [if_neg filled, urlTarget, if_pos]
    rw [List.head?_append, first, Option.some_or]

theorem requests_of_read {line : Option Text} {read : RequestLine}
    (reading : parse line = .ok read) (headers : Headers) (body : Body) :
    (remote secure host port).requests line headers body =
      match (body.toContent .caller).read.result with
      | .ok data =>
          [.send read.method (url secure host port read.target) headers
            (if data.isEmpty then none else some data)]
      | .error _ => [] := by
  rw [requests, reading]
  cases (body.toContent .caller).read.result <;> rfl

/-- Paths that start with a slash stand in front of the target in the URL of a request, and change
nothing else of it.  The target is as it would be without them, with a slash in front if it had
none, only if nothing is left of the paths or the target starts with a slash. -/
theorem contacts_under_paths {paths : List Text}
    (rooted : ∀ path ∈ paths, path.head? = some '/') (words : ∀ path ∈ paths, ' ' ∉ path)
    {line : Option Text} {read : RequestLine} (reading : parse line = .ok read)
    (headers : Headers) (body : Body) (network : Network) :
    let service : Service := .direct (.remote secure host port)
    let prefixed := base secure host port ++ joinedPaths paths
    let target := if joinedPaths paths = [] then urlTarget read.target else read.target
    let sends (address : Text) : List Event :=
      match (body.toContent .caller).read.result with
      | .ok data =>
          [.send read.method address headers (if data.isEmpty then none else some data)]
      | .error _ => []
    contacts (service.respond line headers body) network =
        sends (base secure host port ++ urlTarget read.target) ∧
      contacts ((service.underAll paths).respond line headers body) network =
        sends (prefixed ++ target) ∧
      (prefixed ++ target = prefixed ++ urlTarget read.target ↔
        joinedPaths paths = [] ∨ read.target.head? = some '/') := by
  intro service prefixed target sends
  have direct {line : Option Text} : contacts (service.respond line headers body) network =
      (remote secure host port).requests line headers body :=
    (remote secure host port).contacts_respond line headers body network
  have plain : contacts (service.respond line headers body) network =
      sends (base secure host port ++ urlTarget read.target) := by
    rw [direct, requests_of_read _ _ _ reading, url]
  refine ⟨plain, ?under, ?agree⟩
  case under =>
    cases paths with
    | nil =>
        have nothing : prefixed ++ target = base secure host port ++ urlTarget read.target := by
          simp [prefixed, target, joinedPaths]
        rw [nothing]
        exact plain
    | cons first others =>
        have one := Sender.underAll_eq_under service.respond first fun path member =>
          words path (List.mem_cons_of_mem first member)
        have word : ' ' ∉ joinedPaths (first :: others) := not_mem_joinedPaths words
        have address : url secure host port (read.behind (joinedPaths (first :: others))).target =
            prefixed ++ target := url_joinedPaths secure host port rooted read.target
        rw [Service.respond_underAll, one, Sender.under_of_read _ _ reading,
          joinedPaths_cons_joined (first :: others) [], List.append_nil, direct,
          requests_of_read _ _ _ (parse_behind word reading), address]
        rfl
  case agree =>
    rw [List.append_cancel_left_eq]
    by_cases nothing : joinedPaths paths = []
    · simp [target, nothing]
    · have kept : target = read.target := if_neg nothing
      rw [kept, urlTarget, or_iff_right nothing]
      split
      · rename_i first
        exact iff_of_true rfl first
      · rename_i other
        exact iff_of_false (List.cons_ne_self '/' read.target).symm other

/-- Two paths, one of them a slash, in front of a path with a query. -/
theorem contacts_under_paths_of_query :
    let paths := ["/a/".toList, "/".toList]
    let line := "GET /x?y HTTP/1.1".toList
    let read : RequestLine := ⟨"GET".toList, "/x?y".toList, "HTTP/1.1".toList⟩
    let service : Service := .direct (.remote true ['h'] 443)
    let sent (address : String) : List Event :=
      [.send "GET".toList address.toList .empty (some [1])]
    ((∀ path ∈ paths, path.head? = some '/') ∧ (∀ path ∈ paths, ' ' ∉ path) ∧
      parse (some line) = .ok read) ∧
    contacts (service.respond (some line) .empty (.chunks [[1], []])) {} =
      sent "https://h:443/x?y" ∧
    contacts ((service.underAll paths).respond (some line) .empty (.chunks [[1], []])) {} =
      sent "https://h:443/a/x?y" := by
  intro paths line read service sent
  have rooted : ∀ path ∈ paths, path.head? = some '/' := by decide
  have words : ∀ path ∈ paths, ' ' ∉ path := by decide
  have reading : parse (some line) = .ok read := Run.eq_ok_of_toOption (by decide +kernel)
  obtain ⟨plain, under, -⟩ :=
    contacts_under_paths true ['h'] 443 rooted words reading .empty (.chunks [[1], []]) {}
  exact ⟨⟨rooted, words, reading⟩, plain, under⟩

/-- A target that starts with no slash is put right behind a path, while without the path a slash is
put in front of it. -/
theorem contacts_under_path_of_bare_target :
    let service : Service := .direct (.remote true ['h'] 443)
    let line := some "GET x HTTP/1.1".toList
    let sent (address : String) : List Event := [.send "GET".toList address.toList .empty none]
    contacts (service.respond line .empty .none) {} = sent "https://h:443/x" ∧
      contacts ((service.underAll ["/a".toList]).respond line .empty .none) {} =
        sent "https://h:443/ax" := by
  decide +kernel

end Endpoint
end HttpAuth
