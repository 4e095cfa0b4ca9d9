import PeripheralLink.Log.Path
/-!
The file system of a host of the usual kind, as far as a log file could be looked for on it.
-/

namespace PeripheralLink.Path

/-- Directories, by the directory that they are in. -/
def systemDirectories : List (String × List String) :=
  [("", ["bin", "boot", "dev", "etc", "home", "lib", "lib64", "media", "mnt", "opt", "proc", "root",
      "run", "sbin", "srv", "sys", "tmp", "usr", "var"]),
    ("/usr", ["bin", "games", "include", "lib", "lib64", "libexec", "local", "sbin", "share", "src"]),
    ("/usr/lib", ["apt", "dpkg", "locale", "ssl", "systemd", "terminfo", "tmpfiles.d",
      "x86_64-linux-gnu"]),
    ("/usr/local", ["bin", "etc", "games", "include", "lib", "man", "sbin", "share", "src"]),
    ("/usr/local/share", ["ca-certificates", "man"]),
    ("/usr/share", ["bash-completion", "ca-certificates", "common-licenses", "debconf", "dict", "doc",
      "info", "keyrings", "locale", "man", "misc", "pam", "perl5", "zoneinfo"]),
    ("/var", ["backups", "cache", "lib", "local", "lock", "log", "mail", "opt", "run", "spool", "tmp"]),
    ("/var/cache", ["apt", "debconf", "ldconfig"]),
    ("/var/lib", ["apt", "dpkg", "misc", "pam", "systemd"]),
    ("/var/log", ["apt"]),
    ("/var/spool", ["cron", "mail"]),
    ("/etc", ["alternatives", "apt", "cron.d", "cron.daily", "default", "dpkg", "gnutls", "gss", "init.d",
      "kernel", "ld.so.conf.d", "logrotate.d", "opt", "pam.d", "profile.d", "security", "selinux",
      "skel", "ssl", "systemd", "terminfo", "update-motd.d"]),
    ("/etc/apt", ["apt.conf.d", "preferences.d", "sources.list.d", "trusted.gpg.d"]),
    ("/etc/ssl", ["certs", "private"]),
    ("/dev", ["fd", "mqueue", "pts", "shm"]),
    ("/run", ["lock"]),
    ("/proc", ["1", "bus", "driver", "fs", "irq", "net", "self", "sys", "sysvipc", "thread-self", "tty"]),
    ("/proc/self", ["attr", "cwd", "fd", "fdinfo", "map_files", "net", "ns", "root", "task"]),
    ("/proc/sys", ["fs", "kernel", "net", "user", "vm"]),
    ("/sys", ["block", "bus", "class", "dev", "devices", "firmware", "fs", "kernel", "module", "power"])]

/-- Files and devices that take what is written to them, by the directory that they are in. -/
def systemFiles : List (String × List String) :=
  [("/dev", ["console", "null", "ptmx", "random", "stderr", "stdin", "stdout", "urandom", "zero"]),
    ("/etc", ["adduser.conf", "bash.bashrc", "debian_version", "environment", "fstab", "group",
      "gshadow", "host.conf", "hostname", "hosts", "issue", "issue.net", "ld.so.cache", "ld.so.conf",
      "localtime", "login.defs", "motd", "nsswitch.conf", "os-release", "pam.conf", "passwd", "profile",
      "resolv.conf", "shadow", "shells", "subgid", "subuid", "timezone"]),
    ("/usr/bin", ["[", "apt", "apt-get", "awk", "base64", "basename", "bash", "cat", "chgrp", "chmod",
      "chown", "clear", "cmp", "comm", "cp", "cut", "dash", "date", "dd", "df", "diff", "dirname",
      "dpkg", "du", "echo", "env", "expand", "expr", "factor", "false", "find", "fold", "free",
      "getent", "grep", "groups", "gunzip", "gzip", "head", "hostname", "id", "install", "join",
      "kill", "ldd", "link", "ln", "locale", "login", "logname", "ls", "md5sum", "mkdir", "mkfifo",
      "mknod", "mktemp", "more", "mount", "mv", "nice", "nohup", "nproc", "od", "passwd", "paste",
      "perl", "pgrep", "pinky", "printenv", "printf", "ps", "pwd", "readlink", "realpath", "rm",
      "rmdir", "sed", "seq", "sh", "sha1sum", "sha256sum", "shred", "shuf", "sleep", "sort", "split",
      "stat", "stty", "su", "sum", "sync", "tac", "tail", "tar", "tee", "test", "timeout", "top",
      "touch", "tput", "tr", "true", "truncate", "tty", "umount", "uname", "uniq", "unlink", "uptime",
      "users", "wc", "whereis", "which", "who", "whoami", "xargs", "yes", "zcat"]),
    ("/usr/sbin", ["adduser", "chroot", "groupadd", "ldconfig", "nologin", "useradd", "userdel",
      "usermod"])]

/-- Files that show the state of the system and cannot be added to, by the directory that they are
in. -/
def stateFiles : List (String × List String) :=
  [("/proc", ["cmdline", "consoles", "cpuinfo", "crypto", "devices", "diskstats", "filesystems",
      "interrupts", "iomem", "ioports", "kallsyms", "loadavg", "locks", "meminfo", "misc", "modules",
      "mounts", "partitions", "softirqs", "stat", "swaps", "timer_list", "uptime", "version",
      "vmallocinfo", "vmstat", "zoneinfo"]),
    ("/proc/self", ["cgroup", "cmdline", "comm", "environ", "io", "limits", "maps", "mem", "mountinfo",
      "mounts", "oom_score", "sched", "smaps", "stat", "statm", "status"])]

/-- Directories that go by a second name. -/
def otherNames : List (List String × List String) :=
  [(["bin"], ["usr", "bin"]), (["sbin"], ["usr", "sbin"]), (["lib"], ["usr", "lib"]),
    (["lib64"], ["usr", "lib64"]), (["var", "run"], ["run"]), (["var", "lock"], ["run", "lock"]),
    (["var", "spool", "mail"], ["var", "mail"]), (["dev", "fd"], ["proc", "self", "fd"])]

def listed (table : List (String × List String)) (directory name : String) : Bool :=
  ((table.lookup directory).getD []).contains name

/-- The path of names from the root on. -/
def ofNames (names : List String) : String := String.join (names.map ("/" ++ ·))

/-- What the host has in a directory under a name. -/
def systemEntry (place : List String) (name : String) : Entry :=
  let directory := ofNames place
  if listed systemDirectories directory name then .directory
  else if listed systemFiles directory name then .file (.elsewhere (place ++ [name]))
  else if listed stateFiles directory name then .unfit .notExtensible
  else if directory == "/dev" && name == "full" then .file .full
  else if directory == "/dev" && name == "tty" then .unfit .noDevice
  else .absent

/-- The place of a file that is made on the host. -/
def systemCreate (place : List String) (name : String) : Except FileError Place :=
  if place.head? == some "proc" then .error .missing
  else if place.head? == some "sys" || place == ["dev", "pts"] then .error .denied
  else .ok (.elsewhere (place ++ [name]))

def FileSystem.usual : FileSystem where
  entry := systemEntry
  resolve place := (otherNames.lookup place).getD place
  create := systemCreate
  nameLimit := 255
  pathLimit := 4095

example : (find .usual "/d" (fun _ => false) [] "x/../y.log").toOption = some (.here "y.log") := by
  decide +kernel

example : (find .usual "/tmp/d" (fun _ => false) [] "/bin/env").toOption =
    some (.elsewhere ["usr", "bin", "env"]) := by
  decide +kernel

example : (find .usual "/tmp/d" (fun _ => false) [] "..").toOption = none := by decide +kernel

end PeripheralLink.Path
