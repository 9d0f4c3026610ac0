namespace ScriptRunner.Posix.Signal

def hangup : Nat := 1
def interrupt : Nat := 2
def quit : Nat := 3
def kill : Nat := 9
def brokenPipe : Nat := 13
def terminate : Nat := 15
def proceed : Nat := 18

def table : List (Nat × String × String) :=
  [(1, "HUP", "Hangup"), (2, "INT", "Interrupt"), (3, "QUIT", "Quit"), (4, "ILL", "Illegal instruction"),
    (5, "TRAP", "Trace/breakpoint trap"), (6, "ABRT", "Aborted"), (7, "BUS", "Bus error"),
    (8, "FPE", "Floating point exception"), (9, "KILL", "Killed"), (10, "USR1", "User defined signal 1"),
    (11, "SEGV", "Segmentation fault"), (12, "USR2", "User defined signal 2"), (13, "PIPE", "Broken pipe"),
    (14, "ALRM", "Alarm clock"), (15, "TERM", "Terminated"), (16, "STKFLT", "Stack fault"),
    (17, "CHLD", "Child exited"), (18, "CONT", "Continued"), (19, "STOP", "Stopped (signal)"),
    (20, "TSTP", "Stopped"), (21, "TTIN", "Stopped (tty input)"), (22, "TTOU", "Stopped (tty output)"),
    (23, "URG", "Urgent I/O condition"), (24, "XCPU", "CPU time limit exceeded"),
    (25, "XFSZ", "File size limit exceeded"), (26, "VTALRM", "Virtual timer expired"),
    (27, "PROF", "Profiling timer expired"), (28, "WINCH", "Window changed"), (29, "IO", "I/O possible"),
    (30, "PWR", "Power failure"), (31, "SYS", "Bad system call")]

def name? (n : Nat) : Option String := (table.lookup n).map Prod.fst

def description (n : Nat) : String :=
  match table.lookup n with
  | some (_, text) => text
  | none => "Real-time signal " ++ toString (n - 34)

def ofName? (name : String) : Option Nat := (table.find? fun row => row.2.1 == name).map Prod.fst

def last : Nat := 64

def harmless (n : Nat) : Bool := [17, 18, 23, 28].contains n

def suspends (n : Nat) : Bool := 19 ≤ n && n ≤ 22

def label (n : Nat) : String :=
  match name? n with
  | some name => toString n ++ " (SIG" ++ name ++ ")"
  | none => toString n

end ScriptRunner.Posix.Signal
